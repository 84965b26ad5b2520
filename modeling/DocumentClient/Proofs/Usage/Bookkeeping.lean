import DocumentClient.Proofs.Usage.Commands
import DocumentClient.Store.Scripted

/-!
# DocumentClient.Proofs.Usage.Bookkeeping

**A connection keeps account of its use.** Whatever is asked of it, in whatever order, and by
however many units of work: its statistics, the handles and repositories that it gives, and what
happens to its store are those that can be read off the commands.

* `performAll_accounted` reads everything off that callers see, also that a resolution that fails
  changes nothing; `Accounted` lists it.
* The store may be any that notes what a connection does to it besides calls (`Noting`).
  A store with a script is one (`noting_book`).

## Proof shape

* `Kept.all` is the induction over the commands, with one command as the step. While it goes on,
  handles and repositories of later first times are not known yet; `Carried.answered_of_extends`
  carries what came of a command over to the lists that there are in the end.
* `performAll_split` finds the moment of each command in the run, so that what is said of every
  command need not be carried along in the induction.
* `tallyOf_prefix` is the same for tallies: what comes later has what comes earlier as a
  beginning.
-/

namespace DocumentClient

open Store Retry

variable {σ : Type}

namespace Usage

section
variable {store : Store σ} {book : σ → List Event} {begun : List Event} {settings : Settings}
  {usage : Usage σ}

/-! ### Any commands -/

/-- **Any commands keep the account.** -/
theorem Kept.all (noting : Noting store book) (commands : List Command) (before : History)
    (kept : Kept book begun settings (tallyOf before) usage) :
    Kept book begun settings (tallyOf (before ++ (performAll store commands usage).1))
      (performAll store commands usage).2 := by
  induction commands generalizing before usage with
  | nil =>
      rw [show performAll store [] usage = ([], usage) from rfl, List.append_nil]
      exact kept
  | cons command commands ih =>
      have carried := kept.carried noting command
      have next := ih (before ++ [(command, (perform store command usage).1)])
        (by rw [tallyOf_concat]; exact carried.kept)
      rw [List.append_assoc] at next
      exact next

end

section
variable {store : Store σ} {usage : Usage σ}

theorem performAll_commands (store : Store σ) (commands : List Command) (usage : Usage σ) :
    (performAll store commands usage).1.map Prod.fst = commands := by
  induction commands generalizing usage with
  | nil => rfl
  | cons command commands ih => exact congrArg (command :: ·) (ih _)

theorem performAll_append (first second : List Command) (usage : Usage σ) :
    performAll store (first ++ second) usage =
      ((performAll store first usage).1 ++
          (performAll store second (performAll store first usage).2).1,
        (performAll store second (performAll store first usage).2).2) := by
  induction first generalizing usage with
  | nil => rfl
  | cons command first ih =>
      rw [List.cons_append]
      simp only [performAll, ih, List.cons_append]

/-- What came of a command is what the commands before it led to. -/
theorem performAll_split {commands : List Command} {before after : History} {command : Command}
    {answer : Answer}
    (h : (performAll store commands usage).1 = before ++ (command, answer) :: after) :
    (performAll store (before.map Prod.fst) usage).1 = before ∧
      (perform store command (performAll store (before.map Prod.fst) usage).2).1 = answer := by
  have commands_eq : commands =
      before.map Prod.fst ++ command :: after.map Prod.fst := by
    rw [← performAll_commands store commands usage, h]
    simp
  rw [commands_eq, performAll_append] at h
  have length_eq : (performAll store (before.map Prod.fst) usage).1.length = before.length := by
    rw [← List.length_map Prod.fst, performAll_commands, List.length_map]
  obtain ⟨same, rest⟩ := List.append_inj h length_eq
  exact ⟨same, (Prod.mk.inj (List.cons.inj rest).1).2⟩

/-- Of every container and every repository there is at most one first time. -/
theorem tallyOf_prefix (before after : History) :
    (tallyOf before).names <+: (tallyOf (before ++ after)).names ∧
      (tallyOf before).opened <+: (tallyOf (before ++ after)).opened := by
  induction after generalizing before with
  | nil => simp
  | cons entry after ih =>
      obtain ⟨command, answer⟩ := entry
      have later := ih (before ++ [(command, answer)])
      rw [List.append_assoc, tallyOf_concat] at later
      exact ⟨(prefix_note _ _).trans later.1, (prefix_note _ _).trans later.2⟩

/-- Checks are counted by their answers. -/
theorem length_healths (commands : List Command) (usage : Usage σ) :
    (healths (performAll store commands usage).1).length = commands.countP Command.isCheck := by
  induction commands generalizing usage with
  | nil => rfl
  | cons command commands ih =>
      have one : (perform store command usage).1.health?.isSome = command.isCheck := by
        cases command with
        | repository unit typeName =>
            simp only [perform]
            split <;> rfl
        | _ => rfl
      rw [List.countP_cons, ← ih (perform store command usage).2, ← one]
      simp only [performAll, healths, List.filterMap_cons]
      cases (perform store command usage).1.health? with
      | none => rfl
      | some outcome => rfl

/-- What came of a command is right by other handles and repositories too, if they are the same for
what the command resolves. -/
theorem Answered.congr {settings : Settings} {handles handles' : String → Handle}
    {repositories repositories' : Nat → String → Repository} {tally : Tally} {command : Command}
    {answer : Answer}
    (sameHandle : ∀ name, tally.disposed = false → command.containerOf? = some name →
      handles name = handles' name)
    (sameRepository : ∀ unit typeName, command = .repository unit typeName →
      (unit, typeName) ∈ tally.opened ∨
        (tally.disposed = false ∧ ∃ placement, Catalog.find? typeName = some placement) →
      repositories unit typeName = repositories' unit typeName)
    (answered : Answered settings handles repositories tally command answer) :
    Answered settings handles' repositories' tally command answer := by
  cases command with
  | container name =>
      cases answer with
      | handle outcome =>
          cases closed : tally.disposed with
          | true => simpa [Answered, unlessClosed, closed] using answered
          | false =>
              simpa [Answered, unlessClosed, closed, sameHandle name closed rfl] using answered
      | _ => exact answered
  | containerFor typeName =>
      cases answer with
      | handle outcome =>
          cases found : Catalog.find? typeName with
          | none =>
              obtain ⟨failure, missing⟩ := locate_of_missing found
              simpa [Answered, missing, Except.bind] using answered
          | some placement =>
              have located := locate_of_found found
              cases closed : tally.disposed with
              | true =>
                  simpa [Answered, located, Except.bind, unlessClosed, closed] using answered
              | false =>
                  have same := sameHandle placement.container closed
                    (by simp [Command.containerOf?, found])
                  simpa [Answered, located, Except.bind, unlessClosed, closed, same] using answered
      | _ => exact answered
  | repository unit typeName =>
      cases answer with
      | repository outcome =>
          by_cases mem : (unit, typeName) ∈ tally.opened
          · -- it was opened before, and is given again even after a disposal
            simpa [Answered, mem, sameRepository unit typeName rfl (.inl mem)] using answered
          · cases found : Catalog.find? typeName with
            | none =>
                obtain ⟨failure, missing⟩ := locate_of_missing found
                simpa [Answered, mem, missing, Except.bind] using answered
            | some placement =>
                have located := locate_of_found found
                cases closed : tally.disposed with
                | true =>
                    simpa [Answered, mem, located, Except.bind, unlessClosed, closed] using answered
                | false =>
                    have same := sameRepository unit typeName rfl (.inr ⟨closed, placement, found⟩)
                    simpa [Answered, mem, located, Except.bind, unlessClosed, closed, same]
                      using answered
      | _ => exact answered
  | batch unit request operations key => cases answer <;> exact answered
  | check timeout => cases answer <;> exact answered
  | statistics => cases answer <;> exact answered
  | dispose => cases answer <;> exact answered

/-- What came of a command is right by all handles and repositories, those of later first times
included. -/
theorem Carried.answered_of_extends {book : σ → List Event} {begun : List Event}
    {settings : Settings} {tally : Tally} {command : Command} {ended : Answer × Usage σ}
    {all : List String} {opened : List (Nat × String)}
    (carried : Carried book begun settings tally command usage ended)
    (kept : Kept book begun settings tally usage)
    (more : (tally.after command ended.1).names <+: all)
    (more' : (tally.after command ended.1).opened <+: opened) :
    Answered settings (handleFor all) (repositoryFor settings all opened) tally command
      ended.1 := by
  -- places in the lists of first times do not change when the lists grow
  refine carried.answered.congr (fun name live resolves => ?_) fun unit typeName asked known => ?_
  · refine (handleFor_of_extends more ?_).symm
    simp only [Tally.after, live, resolves]
    exact mem_note_self
  · subst asked
    rcases known with mem | ⟨live, placement, found⟩
    · obtain ⟨placement, found, known⟩ := kept.known unit typeName mem
      exact (repositoryFor_of_extends more more' ((prefix_note _ _).subset mem) found
        ((prefix_note _ _).subset known)).symm
    · have resolved : placement.container ∈
          (tally.after (.repository unit typeName) ended.1).names := by
        simp only [Tally.after, live, Command.containerOf?, found]
        exact mem_note_self
      have mem : (unit, typeName) ∈ (tally.after (.repository unit typeName) ended.1).opened := by
        simp only [Tally.after, live, Command.opens?, found]
        exact mem_note_self
      exact (repositoryFor_of_extends more more' mem found resolved).symm

end

/-! ### The account of a connection -/

/-- A new connection, and units of work that have no repositories yet. -/
def fresh (settings : Settings) (refreshTask : Option RefreshTask) (moment : Moment σ)
    (policies : Nat → Policy) : Usage σ :=
  ⟨⟨{ settings, refreshTask }, moment, 0⟩, fun unit => { batchPolicy := policies unit }⟩

/-- What holds of a connection after any commands. -/
structure Accounted (store : Store σ) (book : σ → List Event) (begun : List Event)
    (settings : Settings) (commands : List Command) (history : History) (usage : Usage σ) :
    Prop where
  /-- Every command was carried out. -/
  asked : history.map Prod.fst = commands
  /-- Up to the disposal there are as many containers as were resolved, from then on none; the last
  check of the store is remembered. -/
  told : Tells settings (tallyOf history) usage.session.connection.statistics
  /-- Every check counts. -/
  checks : usage.session.connection.healthChecks = commands.countP Command.isCheck
  /-- The store was prepared for calls of every container once, not after it was disposed of, and
  it was disposed of once. -/
  noted : book usage.session.moment.store =
    begun ++ (names commands).map (.opened settings.databaseName) ++
      if disposed commands then [.disposed] else []
  distinct : (names commands).Nodup
  resolved : ∀ name, name ∈ names commands ↔ name ∈ resolved commands
  /-- Every container has one handle, and every unit of work has one repository for a type. -/
  answered : ∃ handles repositories,
    (∀ name, (handles name).container = name) ∧
    (∀ unit typeName placement, Catalog.find? typeName = some placement →
      (repositories unit typeName).typeName = typeName ∧
      (repositories unit typeName).placement = placement ∧
      (repositories unit typeName).handle = handles placement.container) ∧
    ∀ before command answer after, history = before ++ (command, answer) :: after →
      Answered settings handles repositories (tallyOf before) command answer
  /-- A resolution that fails changes nothing: not the connection, not the store, and no unit of
  work. -/
  unchanged : ∀ command : Command, command.resolves = true →
    command.containerOf? = none ∨ disposed commands = true →
      (perform store command usage).2 = usage

/-- Nothing was done yet. -/
theorem kept_fresh (book : σ → List Event) (settings : Settings)
    (refreshTask : Option RefreshTask) (moment : Moment σ) (policies : Nat → Policy) :
    Kept book (book moment.store) settings (tallyOf []) (fresh settings refreshTask moment policies)
    where
  keeps := by
    constructor
    case find => exact fun _ _ => rfl
    case length => exact fun _ => rfl
    case noted => simp [tallyOf, names, resolved, live, disposed, fresh]
    all_goals rfl
  repositories _ _ := rfl
  made := rfl
  known _ _ mem := absurd mem List.not_mem_nil
  checks := rfl
  latest := rfl

/-- **A connection keeps account of its use.** Whatever commands are given, in whatever order and
by however many units of work: the statistics, the handles, the repositories, and what happened to
the store are those that can be read off the commands. -/
theorem performAll_accounted (store : Store σ) (book : σ → List Event) (noting : Noting store book)
    (settings : Settings) (refreshTask : Option RefreshTask) (moment : Moment σ)
    (policies : Nat → Policy) (commands : List Command) :
    Accounted store book (book moment.store) settings commands
      (performAll store commands (fresh settings refreshTask moment policies)).1
      (performAll store commands (fresh settings refreshTask moment policies)).2 := by
  have first := kept_fresh book settings refreshTask moment policies
  generalize fresh settings refreshTask moment policies = usage at first ⊢
  have kept := first.all noting commands []
  rw [List.nil_append] at kept
  have asked := performAll_commands store commands usage
  have told := (@Kept.statistics σ store _ _ _ _ _ kept).answered
  constructor
  case asked => exact asked
  case told => exact told
  case checks => exact kept.checks.trans (length_healths commands usage)
  case noted =>
    have noted := kept.keeps.noted
    simp only [tallyOf, asked] at noted
    exact noted
  case distinct => exact nodup_eraseDups _
  case resolved => exact fun name => List.mem_eraseDups
  case answered =>
    generalize history_eq : (performAll store commands usage).1 = history
    refine ⟨handleFor (tallyOf history).names,
      repositoryFor settings (tallyOf history).names (tallyOf history).opened, fun name => rfl,
      ?_, ?_⟩
    · intro unit typeName placement found
      simp [repositoryFor, found]
    · -- the answer was given after the commands before it, and first times do not change later
      intro before command answer after split
      obtain ⟨same, came⟩ := performAll_split (history_eq.trans split)
      have before_kept := first.all noting (before.map Prod.fst) []
      rw [List.nil_append, same] at before_kept
      have carried := before_kept.carried noting command
      have grown := tallyOf_prefix (before ++ [(command, answer)]) after
      rw [List.append_assoc, tallyOf_concat] at grown
      rw [split, ← came] at *
      exact carried.answered_of_extends before_kept grown.1 grown.2
  case unchanged =>
    intro command resolves failed
    have carried := kept.carried noting command
    refine carried.unchanged resolves ?_
    simpa only [tallyOf, asked] using failed

end Usage

/-! ### A store that takes notes -/

namespace Scripted

open Usage

/-- The events among the calls that a store with a script notes. -/
def eventOf? : Asked → Option Event
  | .openContainer database name => some (.opened database name)
  | .dispose => some .disposed
  | _ => none

/-- What the notes of a store with a script say of its connection. -/
def book (scripted : Scripted) : List Event :=
  (scripted.notes.filterMap fun noted => eventOf? noted.asked).reverse

theorem notes_serve {α : Type} (asked : Asked) (given : Entry → Option α)
    (otherwise : Call Memory α) (now : Nat) (scripted : Scripted) :
    (serve asked given otherwise now scripted).settled.notes = ⟨now, asked⟩ :: scripted.notes ∧
      (serve asked given otherwise now scripted).dropped.notes =
        ⟨now, asked⟩ :: scripted.notes := by
  unfold serve
  dsimp only
  split <;> exact ⟨rfl, rfl⟩

theorem book_of_notes {scripted scripted' : Scripted} {now : Nat} {asked : Asked}
    (h : scripted'.notes = ⟨now, asked⟩ :: scripted.notes) :
    scripted'.book = scripted.book ++ (eventOf? asked).toList := by
  rw [book, h, List.filterMap_cons]
  dsimp only
  cases eventOf? asked with
  | none => exact (List.append_nil _).symm
  | some event => exact List.reverse_cons

/-- A store with a script is one that notes what its connection does. -/
theorem noting_book : Noting store book where
  opened database container now _ :=
    @book_of_notes _ _ now (.openContainer database container) rfl
  disposed now _ := @book_of_notes _ _ now .dispose rfl
  checked database now state := by
    have notes := notes_serve (.readDatabase database) (fun _ => none)
      (Memory.store.readDatabase database) now state
    exact ⟨(book_of_notes notes.1).trans (List.append_nil _),
      (book_of_notes notes.2).trans (List.append_nil _)⟩
  executed name key operations now state := by
    have notes := notes_serve (.executeBatch name key operations) Entry.batch
      (Memory.store.executeBatch name key operations) now state
    exact ⟨(book_of_notes notes.1).trans (List.append_nil _),
      (book_of_notes notes.2).trans (List.append_nil _)⟩

end Scripted

namespace Usage

/-- Two units of work share a container, a check fails for a reason that is not the store's, and
the connection is used after it was disposed of twice. -/
def sharing : List Command :=
  [.container "Goals", .repository 0 "Goal", .repository 1 "Goal", .containerFor "Nothing",
    .batch 0 {} [.ofDelete "Task" "t1" (.ofText "u1")] (.ofText "u1"), .check (.ofSeconds 5),
    .repository 0 "Goal", .statistics, .dispose, .dispose, .container "Goals",
    .repository 1 "Goal", .statistics]

/-- What the store is told then to answer: the batch is applied, the check fails. -/
def script : Scripted :=
  { script := [{}, { failure := some (.internal "broken") }] }

/-- That use is accounted for. -/
theorem performAll_accounted_sharing :
    Noting Scripted.store Scripted.book ∧
      Accounted Scripted.store Scripted.book [] {} sharing
        (performAll Scripted.store sharing
          (fresh {} none ⟨0, script, []⟩ fun _ => .forBatches 3 (.ofSeconds 30))).1
        (performAll Scripted.store sharing
          (fresh {} none ⟨0, script, []⟩ fun _ => .forBatches 3 (.ofSeconds 30))).2 :=
  ⟨Scripted.noting_book, performAll_accounted Scripted.store Scripted.book Scripted.noting_book {}
    none ⟨0, script, []⟩ (fun _ => .forBatches 3 (.ofSeconds 30)) sharing⟩

example : names sharing = ["Goals", "Tasks"] := by decide

end Usage

end DocumentClient
