import DocumentClient.Proofs.Repository.Answers
import DocumentClient.Proofs.Usage.Account
import DocumentClient.Provisioning
import DocumentClient.Store.Memory

/-!
# DocumentClient.Proofs.Provisioning

**Every container is reported once.** Any number of clients set up containers in one store, one
after the other, each over its own connection. A list of definitions is refused as a whole, for the
first path in it that is not absolute; every other one is carried out. The same name may occur in
several lists, and several times in one.

* `newNames` drops from a list the names that are known, and every repetition; `noting` is the
  store that knows some names more. Both are about names, and know nothing of definitions and
  paths.
* `createContainers_memory` is what one list does: the names that the store has not noted before
  are reported, each at its first place, and noted.
* `perform_memory` adds the check, which comes first: a list that is refused leaves no trace.
* `performAll_memory` is the induction over the set-ups: what is reported all in all is what the
  store has noted, on top of what it had. It starts from a store that has noted anything, since
  that is where every set-up but the first one starts.
* `setUps_report_once` draws the conclusion for a new store, in which what is noted is what was
  reported, without repetition and in order; and a set-up that is repeated reports nothing.
-/

namespace DocumentClient.Provisioning

open Store

variable {σ : Type}

/-! ### The check of the paths -/

/-- Definitions are refused for the first path among them that is not absolute. -/
theorem checkDefinitions_of_relative {before after : List ContainerDefinition}
    {bad : ContainerDefinition} (absolute : ∀ definition ∈ before, definition.hasAbsolutePath)
    (relative : ¬bad.hasAbsolutePath) :
    checkDefinitions (before ++ bad :: after) =
      .error (ModelError.partitionPath bad.partitionPath).toFailure := by
  have passed : before.find? (fun definition => !definition.hasAbsolutePath) = none :=
    List.find?_eq_none.mpr fun definition mem => by simp [absolute definition mem]
  have first : (before ++ bad :: after).find? (fun definition => !definition.hasAbsolutePath) =
      some bad := by
    simp [passed, relative]
  rw [checkDefinitions, first]

/-- Definitions are not refused exactly if all their paths are absolute. -/
theorem checkDefinitions_eq_ok_iff {definitions : List ContainerDefinition} :
    checkDefinitions definitions = .ok () ↔
      definitions.all ContainerDefinition.hasAbsolutePath := by
  unfold checkDefinitions
  cases found : definitions.find? (fun definition => !definition.hasAbsolutePath) with
  | none => simpa using List.find?_eq_none.mp found
  | some bad =>
      have relative : bad.hasAbsolutePath = false := by simpa using List.find?_some found
      simpa using ⟨bad, List.mem_of_find?_eq_some found, relative⟩

/-! ### Set-ups -/

/-- Containers that a client wants to be there, over its connection. -/
structure SetUp where
  /-- The connection of the client. -/
  connection : Connection
  /-- The definitions of the containers. -/
  definitions : List ContainerDefinition

namespace SetUp

/-- The names of the containers. -/
def names (setUp : SetUp) : List String :=
  setUp.definitions.map ContainerDefinition.name

/-- Are the paths of all definitions absolute? -/
def isAbsolute (setUp : SetUp) : Bool :=
  setUp.definitions.all ContainerDefinition.hasAbsolutePath

/-- Carries out a set-up. -/
def perform (store : Store σ) (setUp : SetUp) : Action (Moment σ) (List String) :=
  fun moment =>
    let (outcome, session) :=
      ensureContainers store setUp.definitions { connection := setUp.connection, moment }
    (outcome, session.moment)

variable {store : Store σ} {setUp : SetUp} {moment : Moment σ}

theorem perform_of_refused {failure : Failure}
    (h : checkDefinitions setUp.definitions = .error failure) :
    setUp.perform store moment = (.error failure, moment) := by
  rw [perform, ensureContainers, Action.ofExcept_bind_of_error h]

theorem perform_of_checked (h : checkDefinitions setUp.definitions = .ok ()) :
    setUp.perform store moment =
      createContainers store setUp.connection.settings.databaseName setUp.definitions moment := by
  rw [perform, ensureContainers, Action.ofExcept_bind_of_ok h]
  rfl

end SetUp

/-- Carries out set-ups one after the other: what comes of each, and where the store stands then. -/
def performAll (store : Store σ) :
    List SetUp → Moment σ → List (Except Failure (List String)) × Moment σ
  | [], moment => ([], moment)
  | setUp :: setUps, moment =>
    let (outcome, moment) := setUp.perform store moment
    let (outcomes, moment) := performAll store setUps moment
    (outcome :: outcomes, moment)

/-- The names that were reported, one after the other. -/
def reported (outcomes : List (Except Failure (List String))) : List String :=
  outcomes.flatMap fun outcome => outcome.toOption.getD []

/-- The names in the set-ups whose paths are all absolute, one after the other. -/
def wanted (setUps : List SetUp) : List String :=
  (setUps.filter SetUp.isAbsolute).flatMap SetUp.names

theorem wanted_cons (setUp : SetUp) (setUps : List SetUp) :
    wanted (setUp :: setUps) = wanted [setUp] ++ wanted setUps := by
  unfold wanted
  rw [← List.flatMap_append, ← List.filter_append, List.singleton_append]

theorem reported_cons (outcome : Except Failure (List String))
    (outcomes : List (Except Failure (List String))) :
    reported (outcome :: outcomes) = reported [outcome] ++ reported outcomes := by
  unfold reported
  rw [← List.flatMap_append, List.singleton_append]

theorem performAll_append (store : Store σ) (before : List SetUp) (setUp : SetUp)
    (after : List SetUp) (moment : Moment σ) :
    (performAll store (before ++ setUp :: after) moment).1[before.length]? =
      some (setUp.perform store (performAll store before moment).2).1 := by
  induction before generalizing moment with
  | nil => rfl
  | cons first before ih => exact ih (first.perform store moment).2

/-! ### What a store in memory notes -/

/-- The names that are new to what is known, each at its first place. -/
def newNames (known names : List String) : List String :=
  (names.removeAll known).eraseDups

@[simp] theorem newNames_nil (known : List String) : newNames known [] = [] := rfl

@[simp] theorem newNames_of_nothing (names : List String) :
    newNames [] names = names.eraseDups := by
  simp [newNames, List.removeAll]

theorem newNames_of_subset {known names : List String} (h : names ⊆ known) :
    newNames known names = [] := by
  have none : names.removeAll known = [] := by
    simpa [List.removeAll] using fun name mem => h mem
  rw [newNames, none, List.eraseDups_nil]

theorem newNames_of_mem {known : List String} {name : String} (h : name ∈ known) :
    newNames known [name] = [] :=
  newNames_of_subset (List.cons_subset.mpr ⟨h, List.nil_subset known⟩)

theorem newNames_of_not_mem {known : List String} {name : String} (h : name ∉ known) :
    newNames known [name] = [name] := by
  simp [newNames, List.removeAll, h, List.eraseDups_cons]

/-- One name after the other, the ones that were new before are known. -/
theorem newNames_append (known first rest : List String) :
    newNames known (first ++ rest) =
      newNames known first ++ newNames (known ++ newNames known first) rest := by
  have apart : (rest.removeAll known).removeAll (first.removeAll known) =
      rest.removeAll (known ++ (first.removeAll known).eraseDups) := by
    simp only [List.removeAll, List.filter_filter]
    refine List.filter_congr fun name _ => ?_
    simp [Bool.and_comm]
  unfold newNames
  rw [← apart, ← List.eraseDups_append]
  simp [List.removeAll]

/-- The store notes that containers were created. -/
def noting (moment : Moment Memory) (names : List String) : Moment Memory :=
  { moment with store := { moment.store with created := moment.store.created ++ names } }

@[simp] theorem noting_created (moment : Moment Memory) (names : List String) :
    (noting moment names).store.created = moment.store.created ++ names := rfl

@[simp] theorem noting_nil (moment : Moment Memory) : noting moment [] = moment := by
  simp [noting]

@[simp] theorem noting_noting (moment : Moment Memory) (first rest : List String) :
    noting (noting moment first) rest = noting moment (first ++ rest) := by
  simp [noting]

/-- One container is noted if its name is new. -/
theorem createContainer_memory (database : String) (definition : ContainerDefinition)
    (moment : Moment Memory) :
    let new := newNames moment.store.created [definition.name]
    (Memory.store.createContainer database definition).action moment =
      (.ok !new.isEmpty, noting moment new) := by
  intro new
  have action_eq : (Memory.store.createContainer database definition).action moment =
      (.ok (moment.store.createContainer definition.name).1,
        { moment with store := (moment.store.createContainer definition.name).2 }) := rfl
  rw [action_eq, Memory.createContainer]
  by_cases known : definition.name ∈ moment.store.created
  · simp [new, newNames_of_mem known, known]
  · simp [new, newNames_of_not_mem known, known, noting]

/-- **The names that are new are reported and noted**, each at its first place. -/
theorem createContainers_memory (database : String) (definitions : List ContainerDefinition)
    (moment : Moment Memory) :
    let new := newNames moment.store.created (definitions.map ContainerDefinition.name)
    createContainers Memory.store database definitions moment = (.ok new, noting moment new) := by
  induction definitions generalizing moment with
  | nil => simp [createContainers, Action.succeed]
  | cons definition definitions ih =>
      have first := createContainer_memory database definition moment
      have split := newNames_append moment.store.created [definition.name]
        (definitions.map ContainerDefinition.name)
      rw [List.map_cons, ← List.singleton_append, split, createContainers,
        Action.bind_apply_of_ok first, Action.bind_apply_of_ok (ih _)]
      -- what is left is the name itself, if it is new
      by_cases known : definition.name ∈ moment.store.created
      · simp [newNames_of_mem known]
      · simp [newNames_of_not_mem known]

/-! ### Any number of set-ups -/

namespace SetUp

theorem perform_of_absolute {setUp : SetUp} (absolute : setUp.isAbsolute)
    (moment : Moment Memory) :
    let new := newNames moment.store.created setUp.names
    setUp.perform Memory.store moment = (.ok new, noting moment new) := by
  rw [perform_of_checked (checkDefinitions_eq_ok_iff.mpr absolute), createContainers_memory]
  rfl

theorem perform_of_known {setUp : SetUp} {moment : Moment Memory} (absolute : setUp.isAbsolute)
    (known : setUp.names ⊆ moment.store.created) :
    setUp.perform Memory.store moment = (.ok [], moment) := by
  rw [perform_of_absolute absolute, newNames_of_subset known, noting_nil]

/-- **One set-up** is refused without a trace, or what is new in it is reported and noted. -/
theorem perform_memory (setUp : SetUp) (moment : Moment Memory) :
    let new := newNames moment.store.created (wanted [setUp])
    reported [(setUp.perform Memory.store moment).1] = new ∧
      (setUp.perform Memory.store moment).2 = noting moment new := by
  by_cases absolute : setUp.isAbsolute
  · have accepted : wanted [setUp] = setUp.names := by simp [wanted, absolute]
    rw [perform_of_absolute absolute, accepted]
    exact ⟨List.flatMap_singleton _ _, rfl⟩
  · have nothing : wanted [setUp] = [] := by simp [wanted, absolute]
    cases checked : checkDefinitions setUp.definitions with
    | ok _ => exact absurd (checkDefinitions_eq_ok_iff.mp checked) absolute
    | error failure =>
        rw [perform_of_refused checked, nothing]
        exact ⟨rfl, (noting_nil moment).symm⟩

end SetUp

/-- **Induction over the set-ups.** What is reported all in all is what is new in those that are not
refused, and the store has noted it. -/
theorem performAll_memory (setUps : List SetUp) (moment : Moment Memory) :
    let new := newNames moment.store.created (wanted setUps)
    reported (performAll Memory.store setUps moment).1 = new ∧
      (performAll Memory.store setUps moment).2 = noting moment new := by
  induction setUps generalizing moment with
  | nil => exact ⟨rfl, (noting_nil moment).symm⟩
  | cons setUp setUps ih =>
      obtain ⟨named, noted⟩ := setUp.perform_memory moment
      obtain ⟨named', noted'⟩ := ih (setUp.perform Memory.store moment).2
      rw [wanted_cons, newNames_append, performAll, reported_cons, named, named', noted', noted]
      exact ⟨rfl, noting_noting _ _ _⟩

/-- **Every container is reported once.** In a new store, whatever lists of definitions come in
over whatever connections: a list is carried out if all its paths are absolute. Otherwise it is
refused for the first path that is not, and the store is left as it is. What is reported all in all
are the names in the lists that are carried out, each once and in the order of their first places;
so there is nothing to report for a list that was carried out before. -/
theorem setUps_report_once (setUps : List SetUp) (moment : Moment Memory)
    (fresh : moment.store.created = []) :
    let outcomes := (performAll Memory.store setUps moment).1
    let later := (performAll Memory.store setUps moment).2
    (∀ before setUp after, setUps = before ++ setUp :: after →
      let reached := (performAll Memory.store before moment).2
      let ended := setUp.perform Memory.store reached
      outcomes[before.length]? = some ended.1 ∧
        (setUp.isAbsolute → ∃ names, ended.1 = .ok names) ∧
        ∀ good bad rest, setUp.definitions = good ++ bad :: rest →
          (∀ definition ∈ good, definition.hasAbsolutePath) → ¬bad.hasAbsolutePath →
          ended = (.error (.configuration
            ["Invalid partition key path '" ++ bad.partitionPath ++ "'"]), reached)) ∧
      reported outcomes = (wanted setUps).eraseDups ∧ (reported outcomes).Nodup ∧
      ∀ setUp ∈ setUps, setUp.isAbsolute → ∀ again : SetUp,
        again.definitions = setUp.definitions →
        again.perform Memory.store later = (.ok [], later) := by
  intro outcomes later
  obtain ⟨named, noted⟩ := performAll_memory setUps moment
  rw [fresh, newNames_of_nothing] at named noted
  refine ⟨?_, named, named ▸ Usage.nodup_eraseDups _, ?_⟩
  · rintro before setUp after rfl
    refine ⟨performAll_append _ _ _ _ _, fun absolute => ?_, ?_⟩
    · rw [SetUp.perform_of_absolute absolute]
      exact ⟨_, rfl⟩
    · intro good bad rest definitions absolute relative
      refine SetUp.perform_of_refused ?_
      rw [definitions]
      exact checkDefinitions_of_relative absolute relative
  · rintro setUp mem absolute ⟨connection, definitions⟩ rfl
    -- the names of the list are among those that the store has noted
    refine SetUp.perform_of_known absolute fun name here => ?_
    rw [show later = _ from noted, noting_created]
    refine List.mem_append_right _ (List.mem_eraseDups.mpr ?_)
    exact List.mem_flatMap.mpr ⟨setUp, List.mem_filter.mpr ⟨mem, absolute⟩, here⟩

/-- The set-up of containers by names and paths. -/
def setUpOf (containers : List (String × String)) : SetUp where
  connection := { settings := {} }
  definitions := containers.map fun (name, partitionPath) => { name, partitionPath }

/-- Lists that share containers, with one between them that is refused: it creates nothing, and the
others report each container where it comes first. -/
theorem setUps_report_once_shared :
    let shared := setUpOf [("Goals", "/userId"), ("Tasks", "/userId"), ("Goals", "/userId")]
    let relative := setUpOf [("Notes", "/userId"), ("Drafts", "userId")]
    let setUps := [shared, relative, setUpOf [("Users", "/id"), ("Tasks", "/userId")]]
    let moment : Moment Memory := ⟨0, {}, []⟩
    let outcomes := (performAll Memory.store setUps moment).1
    let later := (performAll Memory.store setUps moment).2
    moment.store.created = [] ∧
      outcomes[1]? = some (.error (.configuration ["Invalid partition key path 'userId'"])) ∧
      reported outcomes = ["Goals", "Tasks", "Users"] ∧
      shared.perform Memory.store later = (.ok [], later) := by
  intro shared relative setUps moment outcomes later
  obtain ⟨each, named, -, again⟩ := setUps_report_once setUps moment rfl
  obtain ⟨second, -, refused⟩ := each [shared] relative _ rfl
  refine ⟨rfl, ?_, named.trans (by decide), again shared List.mem_cons_self (by decide) shared rfl⟩
  rw [refused [⟨"Notes", "/userId", none, {}⟩] ⟨"Drafts", "userId", none, {}⟩ [] rfl
    (by decide) (by decide)] at second
  exact second

end DocumentClient.Provisioning
