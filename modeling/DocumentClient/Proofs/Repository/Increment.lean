import DocumentClient.Proofs.Patch.Independence
import DocumentClient.Proofs.Repository.FailedPatch

/-!
# DocumentClient.Proofs.Repository.Increment

**What an increment makes of a whole number**, from the field that a path leads to up to what the
client is told. A number may be any word of 64 bits, but the sum is one of signed words: a number
beyond them counts as nothing, and so the amount takes its place.

* `Patch.total` is the sum, and `Patch.counted` what the number counts as. `total_exact_iff` says
  for which numbers the sum is what it should be.
* `StoresSum` is what is left when an increment is done: the sum is in the field, nothing else is
  changed, and a document is still one.

## Proof shape

* `Json.modifyObject_at` is the induction over a path: a change there is one of the fields that
  `Json.objectAt?` finds, which are put back in their place. What surrounds the fields is a
  function of them and is never taken apart again.
* `Patch.apply_increment` says that an increment stores the sum, as an operation which sets the
  field does, or is refused. So what is known of setting a field carries over.
* An operation by itself does not fail midway, so that a failure changes nothing; what the patch
  leaves after any number of attempts is known from `run_patchItem`.
* `Repository.patch_increment` follows the sum through a patch, whatever fails or is repeated on
  the way.
-/

namespace DocumentClient

open Store Retry

/-! ### The object that a path leads to -/

namespace Json

/-- The fields of the object that a path leads to. -/
def objectAt? : List String → Json → Option (List (String × Json))
  | [], .obj fields => some fields
  | token :: tokens, .obj fields =>
    match Keyed.find? token fields with
    | none => none
    | some inner => objectAt? tokens inner
  | token :: tokens, .arr items =>
    match listIndex? token with
    | none => none
    | some i =>
      match items[i]? with
      | none => none
      | some inner => objectAt? tokens inner
  | _, _ => none

/-- **A change of the object that a path leads to is one of its fields**, which are put back where
they were. -/
theorem modifyObject_at {ε : Type} (absent : ε) {tokens : List String} {value : Json}
    {fields : List (String × Json)} (here : objectAt? tokens value = some fields) :
    ∃ putBack : List (String × Json) → Json,
      (∀ change, modifyObject absent change tokens value = (change fields).map putBack) ∧
        ∀ fields', objectAt? tokens (putBack fields') = some fields' := by
  fun_induction objectAt? tokens value with
  | case1 own =>
      obtain rfl := Option.some.inj here
      exact ⟨.obj, fun change => rfl, fun fields' => rfl⟩
  | case3 token tokens others inner found ih =>
      obtain ⟨putBack, changed, there⟩ := ih here
      refine ⟨fun own => .obj (Keyed.insert token (putBack own) others), fun change => ?_,
        fun fields' => ?_⟩
      · simp only [modifyObject, found, changed]
        cases change fields <;> rfl
      · simp only [objectAt?, Keyed.find?_insert_self, there]
  | case6 token tokens items i index inner found ih =>
      obtain ⟨putBack, changed, there⟩ := ih here
      have inside : i < items.length := (List.getElem?_eq_some_iff.mp found).1
      refine ⟨fun own => .arr (items.set i (putBack own)), fun change => ?_, fun fields' => ?_⟩
      · simp only [modifyObject, index, found, changed]
        cases change fields <;> rfl
      · simp only [objectAt?, index, List.getElem?_set_self inside, there]
  | case2 | case4 | case5 | case7 => cases here

end Json

/-! ### The field at a path -/

namespace Patch

/-- The field of a document that a path leads to. -/
def fieldAt? (path : String) (document : Json) : Option Json :=
  match Text.splitLast? '/' path.toList with
  | none => none
  | some (parent, name) =>
    match Json.pointerTokens? parent with
    | none => none
    | some tokens =>
      (Json.objectAt? tokens document).bind (Keyed.find? (String.ofList name))

variable {path : String} {document old : Json} {current : Int}

/-- **An operation on a field that is there** changes it among the fields around it, which are put
back where they were. -/
theorem apply_at (here : fieldAt? path document = some old) :
    ∃ (name : String) (fields : List (String × Json)) (putBack : List (String × Json) → Json),
      Keyed.find? name fields = some old ∧
        (∀ op : PatchOp, op.path = path →
          apply op document = (changeFields op name fields).map putBack) ∧
        ∀ fields', fieldAt? path (putBack fields') = Keyed.find? name fields' := by
  unfold fieldAt? at here
  cases cut : Text.splitLast? '/' path.toList with
  | none => simp [cut] at here
  | some parts =>
      obtain ⟨parent, name⟩ := parts
      simp only [cut] at here
      cases pointer : Json.pointerTokens? parent with
      | none => simp [pointer] at here
      | some tokens =>
          simp only [pointer] at here
          obtain ⟨fields, there, found⟩ := Option.bind_eq_some_iff.mp here
          obtain ⟨putBack, changed, back⟩ := Json.modifyObject_at (ApplyError.parent path) there
          refine ⟨String.ofList name, fields, putBack, found, fun op same => ?_, fun fields' => ?_⟩
          · simp only [apply, same, cut, pointer, changed]
          · simp only [fieldAt?, cut, pointer, back, Option.bind_some]

theorem apply_set (here : fieldAt? path document = some old) (value : Json) :
    ∃ changed, apply (.set path value) document = .ok changed ∧
      fieldAt? path changed = some value := by
  obtain ⟨name, fields, putBack, -, applied, back⟩ := apply_at here
  refine ⟨_, applied (.set path value) rfl, ?_⟩
  rw [back]
  exact Keyed.find?_insert_self name value fields

/-- What a whole number counts as in an increment: one that is no signed word of 64 bits counts as
nothing. -/
def counted (current : Int) : Int :=
  if Word.isSigned64 current then current else 0

/-- What an increment makes of a whole number: the amount and the sum have to be signed words of 64
bits. -/
def total (current amount : Int) : Except ApplyError Int :=
  if Word.isSigned64 amount then
    if Word.isSigned64 (counted current + amount) then .ok (counted current + amount)
    else .error .overflow
  else .error .amount

/-- The sum is exact, or the amount is refused, unless the amount is a signed word of 64 bits and
the number or the sum is not. -/
theorem total_exact_iff (current amount : Int) :
    (total current amount = .ok (current + amount) ∨ total current amount = .error .amount) ↔
      (Word.isSigned64 amount → Word.isSigned64 current ∧ Word.isSigned64 (current + amount)) := by
  unfold total counted
  by_cases whole : Word.isSigned64 amount
  · by_cases signed : Word.isSigned64 current
    · by_cases fits : Word.isSigned64 (current + amount) <;> simp [whole, signed, fits]
    · -- the amount takes the place of the number, which is not zero
      have different : amount ≠ current + amount := by
        rintro same
        obtain rfl : current = 0 := by omega
        exact signed rfl
      simp [whole, signed, different]
  · simp [whole]

/-- **An increment sets its field to the sum**, or is refused. -/
theorem apply_increment (here : fieldAt? path document = some (.int current)) (amount : Int) :
    apply (.increment path (.int amount)) document =
      (total current amount).bind fun sum => apply (.set path (.int sum)) document := by
  obtain ⟨name, fields, putBack, found, applied, -⟩ := apply_at here
  have number : ((Keyed.find? name fields).bind Json.asInt64?).getD 0 = counted current := by
    rw [found, Option.bind_some, Json.asInt64?, counted]
    split <;> rfl
  have changes : changeFields (.increment path (.int amount)) name fields =
      (total current amount).bind fun sum =>
        changeFields (.set path (.int sum)) name fields := by
    simp only [changeFields, number, Json.asInt64?, total]
    by_cases whole : Word.isSigned64 amount
    · by_cases fits : Word.isSigned64 (counted current + amount)
      · simp only [if_pos whole, if_pos fits, Except.bind]
      · simp only [if_pos whole, if_neg fits, Except.bind]
    · simp only [if_neg whole, Except.bind]
  rw [applied _ rfl, changes]
  cases total current amount with
  | error refusal => rfl
  | ok sum => exact (applied (.set path (.int sum)) rfl).symm

/-- A path that leads to a field of a document is one of a field of it, or inside of one which is
no text. -/
theorem field?_of_fieldAt? {op : PatchOp} (here : fieldAt? op.path document = some old) :
    ∃ first, op.field? = some first ∧
      ∀ text, document.field? first = some (.str text) → old = .str text := by
  unfold fieldAt? at here
  unfold PatchOp.field?
  cases cut : Text.splitLast? '/' op.path.toList with
  | none => simp [cut] at here
  | some parts =>
      obtain ⟨parent, name⟩ := parts
      simp only [cut] at here ⊢
      cases pointer : Json.pointerTokens? parent with
      | none => simp [pointer] at here
      | some tokens =>
          simp only [pointer] at here ⊢
          obtain ⟨fields, there, found⟩ := Option.bind_eq_some_iff.mp here
          cases tokens with
          | nil =>
              refine ⟨_, rfl, fun text value => ?_⟩
              cases document with
              | obj own =>
                  obtain rfl := Option.some.inj there
                  exact Option.some.inj (found.symm.trans value)
              | _ => cases value
          | cons token tokens =>
              refine ⟨_, rfl, fun text value => ?_⟩
              cases document with
              | obj own =>
                  have inside : Keyed.find? token own = some (.str text) := value
                  simp only [Json.objectAt?, inside] at there
                  cases tokens <;> cases there
              | _ => cases value

theorem check_singleton {op : PatchOp} (here : fieldAt? op.path document = some old) :
    check [op] = .ok () := by
  obtain ⟨first, field, -⟩ := field?_of_fieldAt? here
  obtain ⟨cs, path⟩ := PatchOp.exists_path_of_field? field
  have absolute : isAbsolute op = true := by
    simp [isAbsolute, Text.startsWith, path]
  simp [check, maxOperations, absolute]

/-- A document whose id is a text keeps it, if a number in it is set. -/
theorem decodes_of_apply {op : PatchOp} {changed : Json}
    (here : fieldAt? op.path document = some (.int current))
    (applied : apply op document = .ok changed) (read : ∃ own, Document.decode document = .ok own) :
    ∃ own, Document.decode changed = .ok own := by
  obtain ⟨own, read⟩ := read
  obtain rfl := Document.toJson_of_decode read
  obtain ⟨fields', rfl, same⟩ := find?_of_apply applied
  obtain ⟨first, field, text⟩ := field?_of_fieldAt? here
  have different : op.field? ≠ some "id" := by
    rintro h
    obtain rfl := Option.some.inj (field.symm.trans h)
    cases text own.id own.find?_id
  have named : Keyed.find? "id" fields' = some (.str own.id) :=
    (same "id" different).trans own.find?_id
  exact ⟨⟨fields', own.id, named⟩, by
    rw [Document.decode, show Json.obj fields' = Document.toJson ⟨fields', own.id, named⟩ from rfl,
      Document.ofJson?_toJson]⟩

end Patch

/-! ### What a patch leaves -/

/-- The sum of an increment is stored in the field of a document, and nothing else is changed; what
is stored is the answer, if it is a document. It is one, if there was one before. -/
def StoresSum (name : String) (place : DocumentKey) (path : String) (document : Json) (sum : Int)
    (before : Memory) (answer : Except Failure Document) (after : Memory) : Prop :=
  ∃ changed, Patch.apply (.set path (.int sum)) document = .ok changed ∧
    Patch.fieldAt? path changed = some (.int sum) ∧
    answer = Document.decode changed ∧
    ((∃ own, Document.decode document = .ok own) → ∃ own, Document.decode changed = .ok own) ∧
    (after.container name).documents = (before.container name).documents.insert place changed ∧
    before.SameElsewhere name after

section
variable {name id path : String} {key : PartitionKey} {document : Json} {current amount : Int}

/-- An increment that the store reports as done has stored the sum. -/
theorem storesSum_of_leaves {before after : Memory} {response : ItemResponse}
    (stored : (before.container name).documents.find? (Memory.documentKey key id) =
      some document)
    (here : Patch.fieldAt? path document = some (.int current))
    (leaves : PatchLeaves name id key [.increment path (.int amount)] before (.ok response)
      after) :
    ∃ sum, Patch.total current amount = .ok sum ∧
      StoresSum name (Memory.documentKey key id) path document sum before
        (Document.decode response.resource) after := by
  obtain ⟨⟨document', found, applied, documents⟩, elsewhere⟩ := leaves
  obtain rfl := Option.some.inj (stored.symm.trans found)
  have increment := Patch.apply_increment here amount
  cases summed : Patch.total current amount with
  | error refusal =>
      rw [summed] at increment
      simp [Patch.applyAll, increment, Except.bind] at applied
  | ok sum =>
      obtain ⟨changed, set, field⟩ := Patch.apply_set here (.int sum)
      rw [summed, Except.bind, set] at increment
      have same : changed = response.resource := by
        simpa [Patch.applyAll, increment] using applied
      subst same
      have remains := @Patch.decodes_of_apply document current (.set path (.int sum)) _ here set
      exact ⟨sum, rfl, response.resource, set, field, rfl, remains, documents, elsewhere⟩

open Memory.Container in
/-- What becomes of an increment once it is served: it is done if there is a sum, else refused. -/
theorem effect_increment {documents : Documents} (name : String)
    (stored : documents.find? (Memory.documentKey key id) = some document)
    (here : Patch.fieldAt? path document = some (.int current)) :
    match Patch.total current amount with
    | .ok _ => ∃ response,
        (effect (patchItem name id key [.increment path (.int amount)]) documents).1 = .ok response
    | .error refusal =>
        (effect (patchItem name id key [.increment path (.int amount)]) documents).1 =
          .error refusal.toFailure := by
  have increment := Patch.apply_increment here amount
  cases summed : Patch.total current amount with
  | error refusal =>
      rw [summed, Except.bind] at increment
      simp [effect, Memory.Container.patchItem, served, stored, Patch.applyAll, increment]
  | ok sum =>
      obtain ⟨changed, set, -⟩ := Patch.apply_set here (.int sum)
      rw [summed, Except.bind, set] at increment
      exact ⟨⟨changed, writeCharge⟩, by
        simp [effect, Memory.Container.patchItem, served, stored, Patch.applyAll, increment]⟩

end

namespace Repository

/-- **An increment stores the sum, or changes nothing.** Whatever fails, is repeated or is
cancelled: the patch fails and no document of any container differs, or there is a sum, which is in
the field then. With nothing in its way it stores the sum if there is one, and fails with the
refusal otherwise. The sum is exact, or the amount is refused, unless the amount is a signed word of
64 bits and the number in the field or the exact sum is not. -/
theorem patch_increment (repository : Repository) (request : Request) (id : String)
    (key : PartitionKey) (path : String) (current amount : Int) (document : Json)
    (moment : Moment Memory)
    (stored : (moment.store.container repository.handle.container).documents.find?
      (Memory.documentKey key id) = some document)
    (here : Patch.fieldAt? path document = some (.int current)) :
    let name := repository.handle.container
    let place := Memory.documentKey key id
    let ended :=
      repository.patch Memory.store request id key [.increment path (.int amount)] moment
    (((∃ failure, ended.1 = .error failure) ∧ ∀ other,
        (ended.2.store.container other).documents = (moment.store.container other).documents) ∨
      ∃ sum, Patch.total current amount = .ok sum ∧
        StoresSum name place path document sum moment.store ended.1 ended.2.store) ∧
    (repository.policy.Usual → request.cancelledBy? moment.now = none →
      (moment.store.container name).failures = [] →
      (∀ sum, Patch.total current amount = .ok sum →
        StoresSum name place path document sum moment.store ended.1 ended.2.store) ∧
      ∀ refusal, Patch.total current amount = .error refusal →
        ended.1 = .error refusal.toFailure) ∧
    ((Patch.total current amount = .ok (current + amount) ∨
        Patch.total current amount = .error .amount) ↔
      (Word.isSigned64 amount →
        Word.isSigned64 current ∧ Word.isSigned64 (current + amount))) := by
  intro name place ended
  have checked : Patch.check [.increment path (.int amount)] = .ok () :=
    Patch.check_singleton here
  have whole : ∀ document, (moment.store.container name).documents.find? place =
      some document → ¬Patch.FailsMidway [.increment path (.int amount)] document :=
    fun document _ => Patch.not_failsMidway_singleton _ document
  rcases ran : repository.call "patch" request (fun container =>
    Memory.store.patchItem container id key [.increment path (.int amount)]) moment
    with ⟨outcome, later⟩
  have leaves := run_patchItem whole ran
  have ended_eq : ended = (decoded outcome, later) := patch_of_checked checked ran
  rw [ended_eq]
  refine ⟨?_, fun usual live quiet => ?_, Patch.total_exact_iff current amount⟩
  · cases outcome with
    | error failure => exact .inl ⟨⟨failure, rfl⟩, leaves⟩
    | ok response => exact .inr (storesSum_of_leaves stored here leaves)
  · obtain ⟨memory, run, -⟩ := Policy.run_inContainer "patch" usual
      (Memory.Container.serves_patchItem name id key [.increment path (.int amount)])
      (Memory.Container.conclusive_patchItem _ _ _ _) live quiet repository.policy.maxRetries
    have effective := congrArg Prod.fst (ran.symm.trans run)
    have served := @effect_increment id path key document current amount _ name stored here
    dsimp only at effective
    rw [← effective] at served
    refine ⟨fun sum summed => ?_, fun refusal refused => ?_⟩
    · rw [summed] at served
      obtain ⟨response, rfl⟩ := served
      obtain ⟨sum', summed', stores⟩ := storesSum_of_leaves stored here leaves
      obtain rfl := Except.ok.inj (summed.symm.trans summed')
      exact stores
    · rw [refused] at served
      rw [served]
      rfl

/-- The fields of a goal with a number. -/
def numbered (number : Int) : List (String × Json) :=
  [("id", .str "g1"), ("n", .int number), ("userId", .str "u1")]

/-- Where the goal with a number is stored. -/
def withNumber (number : Int) : Memory :=
  { containers := {("Goals",
      { documents := {(Memory.documentKey (.ofText "u1") "g1", .obj (numbered number))} })} }

/-- A number that has a sum is increased, if nothing is in the way. -/
theorem patch_increment_numbered :
    let moment : Moment Memory := ⟨0, withNumber 41, []⟩
    let place := Memory.documentKey (.ofText "u1") "g1"
    let ended := goals.patch Memory.store {} "g1" (.ofText "u1") [.increment "/n" (.int 1)] moment
    (moment.store.container "Goals").documents.find? place = some (.obj (numbered 41)) ∧
      Patch.fieldAt? "/n" (.obj (numbered 41)) = some (.int 41) ∧
      StoresSum "Goals" place "/n" (.obj (numbered 41)) 42 moment.store ended.1
        ended.2.store := by
  intro moment place ended
  have here : Patch.fieldAt? "/n" (.obj (numbered 41)) = some (.int 41) := rfl
  obtain ⟨-, unhindered, -⟩ := patch_increment goals {} "g1" (.ofText "u1") "/n" 41 1
    (.obj (numbered 41)) moment rfl here
  exact ⟨rfl, here, (unhindered (.inl rfl) rfl rfl).1 42 rfl⟩

/-- A number that is no signed word of 64 bits is lost: the amount is what is answered and stored
in its place. -/
theorem patch_increment_lost :
    ∃ answer later,
      goals.patch Memory.store {} "g1" (.ofText "u1") [.increment "/n" (.int 1)]
          ⟨0, withNumber 9223372036854775808, []⟩ = (.ok answer, later) ∧
        answer.fields = numbered 1 ∧
        (later.store.container "Goals").documents =
          {(Memory.documentKey (.ofText "u1") "g1", .obj (numbered 1))} :=
  ⟨_, _, rfl, rfl, rfl⟩

end Repository

end DocumentClient
