import DocumentClient.Proofs.Batch.Execution

/-!
# DocumentClient.Proofs.Batch.Checking

**A list of operations is a batch exactly if nothing is wrong with it, and otherwise the first thing
that is wrong is reported.** What a batch has to be is said without the check: `Passes` is asked of
one operation and `Accepted` of all of them, `Fault` is the first thing wrong with one operation and
`Refused` the first thing wrong with a list. The constructors of `Fault` and of `Refused` stand in
the order of the checks, and each of them says that the checks before it passed.

## Proof shape

* That a list which passes is accepted, and one with a fault refused, is shown by cases
  (`Passes.accepted`, `Fault.refused`). For the other direction it is enough that there is nothing
  in between (`passes_or_fault`): the check is a function, so it cannot do both.
* `checkOperation_eq_ok_iff` and `checkOperation_eq_error_iff` are about one operation.
* `checkFrom_eq_ok_iff` and `checkFrom_eq_error_iff` go along the list: all operations in front of
  the one that is to blame pass. The position is counted from that of the first operation, so that
  the induction may start anywhere.
* `check_exact` puts what is asked of the whole list in front, and follows a refusal to the
  caller: `Reported` says what the caller learns of an error, and that nothing got to the store.

A key is carried if the value at the partition path equals it as a JSON value, so that numbers are
compared by what they stand for and not by how they are written (`Placement.Carries`).
-/

namespace DocumentClient

open Store

/-- Types of one container have one placement. -/
theorem Catalog.placement_unique {typeName typeName' : String} {placement placement' : Placement}
    (found : Catalog.find? typeName = some placement)
    (found' : Catalog.find? typeName' = some placement')
    (same : placement.container = placement'.container) : placement = placement' := by
  have entry : ∀ {typeName placement}, find? typeName = some placement →
      (typeName, placement) ∈ entries := by
    intro typeName placement found
    obtain ⟨before, _, all, _⟩ := List.lookup_eq_some_iff.mp found
    rw [all]
    exact List.mem_append_right before List.mem_cons_self
  have distinct : ∀ first ∈ entries, ∀ second ∈ entries,
      first.2.container = second.2.container → first.2 = second.2 := by
    decide
  exact distinct _ (entry found) _ (entry found') same

/-- A document carries a key at the partition path of a placement: it has a value there, and that
equals the key as a JSON value. -/
def Placement.Carries (placement : Placement) (document : Json) (key : PartitionKey) : Prop :=
  ∃ value, document.descend placement.segments = some value ∧ value.equiv key.value = true

theorem Placement.isCarriedBy_iff {placement : Placement} {document : Json} {key : PartitionKey} :
    key.isCarriedBy document placement = true ↔ placement.Carries document key := by
  unfold PartitionKey.isCarriedBy Carries
  cases document.descend placement.segments <;> simp

namespace Batch

variable {placement : Placement} {key : PartitionKey} {operation : Operation}
  {operations : List Operation} {error : Error}

/-! ### One operation -/

/-- Nothing is wrong with an operation of a batch for a placement and a key. -/
structure Passes (placement : Placement) (key : PartitionKey) (operation : Operation) : Prop where
  /-- The type of its document is in the catalog, and goes to the container of the placement. -/
  container : ∃ found, Catalog.find? operation.target.typeName = some found ∧
    found.container = placement.container
  /-- It goes to the partition of the key. -/
  partition : operation.target.key.equiv key = true
  /-- A document that it stores whole carries the key. -/
  body : ∀ document ∈ operation.document?, placement.Carries document key

/-- The first thing that is wrong with an operation of a batch: its type, then its container, then
its key, then the document that it stores whole. -/
inductive Fault (placement : Placement) (key : PartitionKey) (index : Nat)
    (operation : Operation) : Error → Prop
  /-- No container is set aside for documents of the type. -/
  | unmapped (unknown : Catalog.find? operation.target.typeName = none) :
    Fault placement key index operation (.model (.unmappedType operation.target.typeName))
  /-- The type goes to another container. -/
  | container {found : Placement}
    (mapped : Catalog.find? operation.target.typeName = some found)
    (other : found.container ≠ placement.container) :
    Fault placement key index operation (.container index found.container placement.container)
  /-- The operation goes to another partition. -/
  | key {found : Placement} (mapped : Catalog.find? operation.target.typeName = some found)
    (same : found.container = placement.container)
    (other : operation.target.key.equiv key = false) :
    Fault placement key index operation (.key index operation.target.key.text key.text)
  /-- The document does not carry the key. -/
  | body {found : Placement} {document : Json}
    (mapped : Catalog.find? operation.target.typeName = some found)
    (same : found.container = placement.container)
    (equal : operation.target.key.equiv key = true)
    (stores : operation.document? = some document)
    (without : ¬placement.Carries document key) :
    Fault placement key index operation
      (.body index operation.target.id key.text placement.partitionPath)

/-- The checks of an operation one inside the other: each is made if those before it pass. -/
theorem checkOperation_eq (placement : Placement) (key : PartitionKey) (index : Nat)
    (operation : Operation) :
    checkOperation placement key index operation =
      match Catalog.find? operation.target.typeName with
      | none => .error (.model (.unmappedType operation.target.typeName))
      | some found =>
        if found.container = placement.container then
          if operation.target.key.equiv key then
            match operation.document? with
            | some document =>
              if key.isCarriedBy document placement then .ok ()
              else .error (.body index operation.target.id key.text placement.partitionPath)
            | none => .ok ()
          else .error (.key index operation.target.key.text key.text)
        else .error (.container index found.container placement.container) := by
  simp only [checkOperation, Catalog.placement]
  cases Catalog.find? operation.target.typeName with
  | none => rfl
  | some found =>
      by_cases same : found.container = placement.container
      · cases operation.target.key.equiv key with
        | false => simp [Except.mapError, bind, Except.bind, same]; rfl
        | true =>
            cases operation.document? with
            | none => simp [Except.mapError, bind, Except.bind, same]; rfl
            | some document =>
                cases carried : key.isCarriedBy document placement <;>
                  simp [Except.mapError, bind, Except.bind, same, carried] <;> rfl
      · simp [Except.mapError, bind, Except.bind, same]; rfl

theorem Passes.accepted (passes : Passes placement key operation) (index : Nat) :
    checkOperation placement key index operation = .ok () := by
  obtain ⟨⟨found, mapped, same⟩, equal, body⟩ := passes
  rw [checkOperation_eq]
  simp only [mapped, if_pos same, if_pos equal]
  cases stores : operation.document? with
  | none => rfl
  | some document => exact if_pos (Placement.isCarriedBy_iff.mpr (body document stores))

theorem Fault.refused {index : Nat} (fault : Fault placement key index operation error) :
    checkOperation placement key index operation = .error error := by
  rw [checkOperation_eq]
  cases fault with
  | unmapped unknown => simp only [unknown]
  | container mapped other => simp only [mapped, if_neg other]
  | key mapped same other => simp [mapped, if_pos same, other]
  | body mapped same equal stores without =>
      simp only [mapped, if_pos same, if_pos equal, stores,
        if_neg (mt Placement.isCarriedBy_iff.mp without)]

/-- An operation passes, or something is wrong with it. -/
theorem passes_or_fault (placement : Placement) (key : PartitionKey) (index : Nat)
    (operation : Operation) :
    Passes placement key operation ∨ ∃ error, Fault placement key index operation error := by
  cases mapped : Catalog.find? operation.target.typeName with
  | none => exact .inr ⟨_, .unmapped mapped⟩
  | some found =>
      by_cases same : found.container = placement.container
      case neg => exact .inr ⟨_, .container mapped same⟩
      cases equal : operation.target.key.equiv key with
      | false => exact .inr ⟨_, .key mapped same equal⟩
      | true =>
          by_cases body : ∀ document ∈ operation.document?, placement.Carries document key
          · exact .inl ⟨⟨found, mapped, same⟩, equal, body⟩
          · push Not at body
            obtain ⟨document, stores, without⟩ := body
            exact .inr ⟨_, .body mapped same equal stores without⟩

theorem checkOperation_eq_ok_iff {index : Nat} :
    checkOperation placement key index operation = .ok () ↔ Passes placement key operation := by
  refine ⟨fun accepted => ?_, fun passes => passes.accepted index⟩
  rcases passes_or_fault placement key index operation with passes | ⟨error, fault⟩
  · exact passes
  · cases accepted.symm.trans fault.refused

theorem checkOperation_eq_error_iff {index : Nat} :
    checkOperation placement key index operation = .error error ↔
      Fault placement key index operation error := by
  refine ⟨fun refused => ?_, Fault.refused⟩
  rcases passes_or_fault placement key index operation with passes | ⟨error', fault⟩
  · cases refused.symm.trans (passes.accepted index)
  · cases refused.symm.trans fault.refused
    exact fault

/-! ### Operations in order -/

/-- Operations are accepted exactly if each of them passes. -/
theorem checkFrom_eq_ok_iff {start : Nat} :
    checkFrom placement key start operations = .ok () ↔
      ∀ operation ∈ operations, Passes placement key operation := by
  induction operations generalizing start with
  | nil => simp [checkFrom]
  | cons first rest ih =>
      have passes : checkOperation placement key start first = .ok () ↔ _ :=
        checkOperation_eq_ok_iff
      rw [List.forall_mem_cons, ← passes, ← @ih (start + 1), checkFrom]
      cases checkOperation placement key start first <;> simp

/-- Operations are refused exactly for the first of them that does not pass. -/
theorem checkFrom_eq_error_iff {start : Nat} :
    checkFrom placement key start operations = .error error ↔
      ∃ before operation after, operations = before ++ operation :: after ∧
        (∀ earlier ∈ before, Passes placement key earlier) ∧
        Fault placement key (start + before.length) operation error := by
  -- on the operations: the first one is to blame itself, or passes and is one more in front
  induction operations generalizing start with
  | nil => simp [checkFrom]
  | cons first rest ih =>
      rw [checkFrom]
      constructor
      · intro refused
        cases checked : checkOperation placement key start first with
        | error error' =>
            rw [checked] at refused
            cases refused
            exact ⟨[], first, rest, rfl, by simp, checkOperation_eq_error_iff.mp checked⟩
        | ok _ =>
            rw [checked] at refused
            obtain ⟨before, operation, after, rfl, pass, fault⟩ := ih.mp refused
            refine ⟨first :: before, operation, after, rfl, ?_, ?_⟩
            · exact List.forall_mem_cons.mpr ⟨checkOperation_eq_ok_iff.mp checked, pass⟩
            · rwa [List.length_cons, Nat.add_comm before.length, ← Nat.add_assoc]
      · rintro ⟨before, operation, after, split, pass, fault⟩
        cases before with
        | nil =>
            obtain ⟨rfl, -⟩ := List.cons.inj split
            have refused : checkOperation placement key start first = .error error := fault.refused
            rw [refused]
        | cons earlier before =>
            obtain ⟨rfl, rfl⟩ := List.cons.inj split
            obtain ⟨passes, pass⟩ := List.forall_mem_cons.mp pass
            simp only [passes.accepted start]
            refine ih.mpr ⟨before, operation, after, rfl, pass, ?_⟩
            rwa [List.length_cons, Nat.add_comm before.length, ← Nat.add_assoc] at fault

/-! ### A whole batch -/

/-- Nothing is wrong with a list of operations for a key: it is a batch for a placement of the
catalog. -/
structure Accepted (operations : List Operation) (key : PartitionKey) (placement : Placement) :
    Prop where
  /-- The placement is one of the catalog. -/
  placed : ∃ typeName, Catalog.find? typeName = some placement
  /-- There is an operation. -/
  nonempty : 1 ≤ operations.length
  /-- There are at most a hundred. -/
  bounded : operations.length ≤ 100
  /-- All of them go to the container of the placement and to the partition of the key. -/
  passes : ∀ operation ∈ operations, Passes placement key operation

/-- The first thing that is wrong with a list of operations: their number, then the type of the
first, then the first operation with which something is wrong. -/
inductive Refused (key : PartitionKey) : List Operation → Error → Prop
  /-- There are no operations. -/
  | empty : Refused key [] .empty
  /-- There are more than a hundred. -/
  | tooMany {operations : List Operation} (exceeds : 100 < operations.length) :
    Refused key operations (.tooMany operations.length)
  /-- No container is set aside for the type of the first. -/
  | unmapped {first : Operation} {rest : List Operation} (fits : (first :: rest).length ≤ 100)
    (unknown : Catalog.find? first.target.typeName = none) :
    Refused key (first :: rest) (.model (.unmappedType first.target.typeName))
  /-- All operations pass up to one with which something is wrong. -/
  | operation {first : Operation} {rest before after : List Operation} {operation : Operation}
    {placement : Placement} {error : Error} (fits : (first :: rest).length ≤ 100)
    (mapped : Catalog.find? first.target.typeName = some placement)
    (split : first :: rest = before ++ operation :: after)
    (pass : ∀ earlier ∈ before, Passes placement key earlier)
    (fault : Fault placement key before.length operation error) :
    Refused key (first :: rest) error

theorem check_cons {first : Operation} {rest : List Operation}
    (fits : (first :: rest).length ≤ 100) :
    check (first :: rest) key =
      match Catalog.find? first.target.typeName with
      | none => .error (.model (.unmappedType first.target.typeName))
      | some placement => (checkFrom placement key 0 (first :: rest)).map fun () => placement := by
  have fits : ¬maxOperations < (first :: rest).length := Nat.not_lt.mpr fits
  rw [check, if_neg fits, Catalog.placement]
  cases Catalog.find? first.target.typeName <;> rfl

theorem Accepted.accepted (accepted : Accepted operations key placement) :
    check operations key = .ok placement := by
  obtain ⟨⟨typeName, placed⟩, nonempty, fits, passes⟩ := accepted
  cases operations with
  | nil => exact absurd nonempty (by decide)
  | cons first rest =>
      -- the first operation passes, so its type leads to the placement itself
      obtain ⟨found, mapped, same⟩ := (passes first List.mem_cons_self).container
      obtain rfl := Catalog.placement_unique mapped placed same
      simp only [check_cons fits, mapped, checkFrom_eq_ok_iff.mpr passes]
      rfl

theorem Refused.refused (refused : Refused key operations error) :
    check operations key = .error error := by
  cases refused with
  | empty => rfl
  | tooMany exceeds =>
      cases operations with
      | nil => exact absurd exceeds (by decide)
      | cons first rest => exact if_pos exceeds
  | unmapped fits unknown => simp only [check_cons fits, unknown]
  | operation fits mapped split pass fault =>
      have stops : checkFrom _ key 0 _ = .error error :=
        checkFrom_eq_error_iff.mpr ⟨_, _, _, split, pass, by rwa [Nat.zero_add]⟩
      simp only [check_cons fits, mapped, stops]
      rfl

/-- A list is accepted for a placement, or something is wrong with it. -/
theorem accepted_or_refused (operations : List Operation) (key : PartitionKey) :
    (∃ placement, Accepted operations key placement) ∨ ∃ error, Refused key operations error := by
  cases operations with
  | nil => exact .inr ⟨_, .empty⟩
  | cons first rest =>
      by_cases fits : (first :: rest).length ≤ 100
      case neg => exact .inr ⟨_, .tooMany (Nat.not_le.mp fits)⟩
      cases mapped : Catalog.find? first.target.typeName with
      | none => exact .inr ⟨_, .unmapped fits mapped⟩
      | some placement =>
          cases checked : checkFrom placement key 0 (first :: rest) with
          | ok _ =>
              exact .inl ⟨placement, ⟨_, mapped⟩, Nat.le_add_left 1 _, fits,
                checkFrom_eq_ok_iff.mp checked⟩
          | error error =>
              obtain ⟨before, operation, after, split, pass, fault⟩ :=
                checkFrom_eq_error_iff.mp checked
              rw [Nat.zero_add] at fault
              exact .inr ⟨error, .operation fits mapped split pass fault⟩

theorem check_eq_ok_iff :
    check operations key = .ok placement ↔ Accepted operations key placement := by
  refine ⟨fun checked => ?_, Accepted.accepted⟩
  rcases accepted_or_refused operations key with ⟨placement', accepted⟩ | ⟨error, refused⟩
  · cases checked.symm.trans accepted.accepted
    exact accepted
  · cases checked.symm.trans refused.refused

theorem check_eq_error_iff :
    check operations key = .error error ↔ Refused key operations error := by
  refine ⟨fun checked => ?_, Refused.refused⟩
  rcases accepted_or_refused operations key with ⟨placement', accepted⟩ | ⟨error', refused⟩
  · cases checked.symm.trans accepted.accepted
  · cases checked.symm.trans refused.refused
    exact refused

/-! ### What the caller is told -/

/-- The position of the operation that an error is about, if it is about one. -/
def Error.index? : Error → Option Nat
  | .container index _ _ | .key index _ _ | .body index _ _ _ => some index
  | .empty | .tooMany _ | .model _ => none

/-- How the caller learns of an error: that a type has no container is a matter of configuration;
everything else makes no batch, and names the operation if one is to blame. -/
inductive Reported : Error → Failure → Prop
  /-- The type of a document has no container. -/
  | unmapped (typeName : String) :
    Reported (.model (.unmappedType typeName))
      (.configuration ["Document type '" ++ typeName ++ "' has no container mapping"])
  /-- The number of operations is wrong. -/
  | count {error : Error} (whole : error = .empty ∨ ∃ count, error = .tooMany count)
    (detail : String) : Reported error (.invalidBatch detail)
  /-- One operation is to blame. -/
  | operation {error : Error} {index : Nat} (about : error.index? = some index)
    (detail : String) :
    Reported error (.invalidBatch ("operation " ++ Text.natText index ++ detail))

/-- An error that is about an operation names it at the start of its message. -/
theorem Error.message_of_index {index : Nat} (about : error.index? = some index) :
    ∃ detail, error.message = "operation " ++ Text.natText index ++ detail := by
  cases error with
  | empty | tooMany _ | model _ => cases about
  | container _ found expected =>
      cases about
      refine ⟨" targets container '" ++ found ++ "' but the batch targets '" ++ expected ++ "'", ?_⟩
      simp only [← String.append_assoc]
      rfl
  | key _ found expected =>
      cases about
      refine ⟨" uses partition key '" ++ found ++ "' but the batch uses '" ++ expected ++ "'", ?_⟩
      simp only [← String.append_assoc]
      rfl
  | body _ id keyText path =>
      cases about
      refine ⟨" document '" ++ id ++ "' does not carry partition key '" ++ keyText ++ "' at " ++
        path, ?_⟩
      simp only [← String.append_assoc]
      rfl

/-- An error that is about an operation is reported with its position. -/
theorem Error.reported_of_index {index : Nat} (about : error.index? = some index) :
    Reported error error.toFailure := by
  have invalid : error.toFailure = .invalidBatch error.message := by
    cases error with
    | empty | tooMany _ | model _ => cases about
    | container _ _ _ | key _ _ _ | body _ _ _ _ => rfl
  obtain ⟨detail, message⟩ := Error.message_of_index about
  rw [invalid, message]
  exact .operation about detail

/-- What is wrong with an operation is reported with its position, unless its type is unknown. -/
theorem Fault.reported {index : Nat} (fault : Fault placement key index operation error) :
    Reported error error.toFailure := by
  cases fault with
  | unmapped _ => exact .unmapped _
  | container _ _ => exact Error.reported_of_index rfl
  | key _ _ _ => exact Error.reported_of_index rfl
  | body _ _ _ _ _ => exact Error.reported_of_index rfl

theorem Refused.reported (refused : Refused key operations error) :
    Reported error error.toFailure := by
  cases refused with
  | empty => exact .count (.inl rfl) _
  | tooMany _ => exact .count (.inr ⟨_, rfl⟩) _
  | unmapped _ _ => exact .unmapped _
  | operation _ _ _ _ fault => exact fault.reported

/-- The check of a list of operations for a key is exact, and nothing passes it by. -/
structure CheckedExactly (operations : List Operation) (key : PartitionKey) : Prop where
  /-- The list is accepted for a placement exactly if nothing is wrong with it. -/
  accepts : ∀ placement, check operations key = .ok placement ↔
    Accepted operations key placement
  /-- It is refused exactly for the first thing that is wrong with it. -/
  refuses : ∀ error, check operations key = .error error ↔ Refused key operations error
  /-- With a list that is refused nothing is done: the caller is told what is wrong, and the
  session stays as it is, with its connection and whatever the store holds. -/
  gates : ∀ error, Refused key operations error → ∃ failure, Reported error failure ∧
    ∀ {σ : Type} (unit : UnitOfWork) (store : Store σ) (request : Retry.Request)
      (session : Session σ),
      unit.executeBatch store request operations key session = (.error failure, session)

/-- **The check of a batch is exact.** Whatever the operations and the key, the check accepts what
is a batch and reports otherwise what is wrong first, and a batch that is refused does not get to
the store. -/
theorem check_exact (operations : List Operation) (key : PartitionKey) :
    CheckedExactly operations key where
  accepts _ := check_eq_ok_iff
  refuses _ := check_eq_error_iff
  gates error refused := by
    refine ⟨error.toFailure, refused.reported, fun unit store request session => ?_⟩
    exact UnitOfWork.executeBatch_of_refused refused.refused

end Batch

end DocumentClient
