import DocumentClient.Patch

/-!
# DocumentClient.Proofs.Patch

**What a patch leaves alone, and where it stops.** An operation changes one field of a document, or
something inside it (`PatchOp.field?`): of a path of one name the field of that name, and of a
longer one the field that its first token stands for.

* `find?_of_applyAll` is the frame lemma: every field that no operation of a list changes is what
  it was, however far the list could be applied. It goes along the list by `find?_of_apply`, and
  that into the object by `find?_of_changeFields`; the fields inside of a field are of no concern,
  since the field as a whole is put back in its place.
* `applyAll_stops` tells where the application of a list stops that does not reach its end: at an
  operation that cannot be applied, to what those before it made.
* A store writes back how far it came, so a list may fail and leave something. `FailsMidway` says
  that it fails behind operations that changed the document; unless it does, a list that fails
  leaves the document as it was (`changed_of_applyAll_stops`).
-/

namespace DocumentClient

/-- The field of a document that an operation changes, or inside of which it does. A path to no
field changes nothing. -/
def PatchOp.field? (op : PatchOp) : Option String :=
  match Text.splitLast? '/' op.path.toList with
  | none => none
  | some (parent, name) =>
    match Json.pointerTokens? parent with
    | none => none
    | some [] => some (String.ofList name)
    | some (token :: _) => some token

namespace Patch

variable {op : PatchOp} {ops : List PatchOp} {document changed : Json} {error : ApplyError}

/-! ### Fields that are left alone -/

theorem find?_of_changeFields {name other : String} {fields fields' : List (String × Json)}
    (h : changeFields op name fields = .ok fields') (different : other ≠ name) :
    Keyed.find? other fields' = Keyed.find? other fields := by
  cases op with
  | add path value | set path value =>
      cases h
      exact Keyed.find?_insert_of_ne different value fields
  | replace path value =>
      simp only [changeFields] at h
      split at h
      · cases h
        exact Keyed.find?_insert_of_ne different value fields
      · cases h
  | remove path =>
      cases h
      exact Keyed.find?_erase_of_ne different fields
  | increment path amount =>
      simp only [changeFields] at h
      split at h
      · cases h
      · split at h
        · cases h
          exact Keyed.find?_insert_of_ne different _ fields
        · cases h

/-- An operation on an object changes one of its fields at most. -/
theorem find?_of_apply {fields : List (String × Json)} (h : apply op (.obj fields) = .ok changed) :
    ∃ fields', changed = .obj fields' ∧
      ∀ name, op.field? ≠ some name → Keyed.find? name fields' = Keyed.find? name fields := by
  unfold apply at h
  unfold PatchOp.field?
  cases path : Text.splitLast? '/' op.path.toList with
  | none => simp [path] at h
  | some parts =>
      obtain ⟨parent, last⟩ := parts
      simp only [path] at h ⊢
      cases pointer : Json.pointerTokens? parent with
      | none => simp [pointer] at h
      | some tokens =>
          simp only [pointer] at h ⊢
          cases tokens with
          | nil =>
              -- the field is that of the document itself
              simp only [Json.modifyObject] at h
              cases change : changeFields op (String.ofList last) fields with
              | error e => simp [change, Except.map] at h
              | ok fields' =>
                  rw [change] at h
                  cases h
                  refine ⟨fields', rfl, fun name other => ?_⟩
                  exact find?_of_changeFields change fun same => other (congrArg some same.symm)
          | cons token tokens =>
              -- the field is inside of the one that the first token names
              simp only [Json.modifyObject] at h
              cases inner : Keyed.find? token fields with
              | none => simp [inner] at h
              | some value =>
                  simp only [inner] at h
                  cases modified : Json.modifyObject (ApplyError.parent op.path)
                      (changeFields op (String.ofList last)) tokens value with
                  | error e => simp [modified, Except.map] at h
                  | ok value' =>
                      rw [modified] at h
                      cases h
                      refine ⟨_, rfl, fun name other => ?_⟩
                      exact Keyed.find?_insert_of_ne
                        (fun same => other (congrArg some same.symm)) value' fields

/-- **Frame lemma.** A field that no operation changes is what it was, however far the operations
could be applied. -/
theorem find?_of_applyAll (ops : List PatchOp) (fields : List (String × Json)) :
    ∃ fields', (applyAll ops (.obj fields)).1 = .obj fields' ∧
      ∀ name, (∀ op ∈ ops, op.field? ≠ some name) →
        Keyed.find? name fields' = Keyed.find? name fields := by
  induction ops generalizing fields with
  | nil => exact ⟨fields, rfl, fun _ _ => rfl⟩
  | cons op ops ih =>
      cases applied : apply op (.obj fields) with
      | error e =>
          refine ⟨fields, ?_, fun _ _ => rfl⟩
          rw [applyAll, applied]
      | ok changed =>
          obtain ⟨between, rfl, first⟩ := find?_of_apply applied
          obtain ⟨fields', reached, rest⟩ := ih between
          refine ⟨fields', ?_, fun name others => ?_⟩
          · rw [applyAll, applied]
            exact reached
          · rw [rest name fun other mem => others other (List.mem_cons_of_mem op mem),
              first name (others op List.mem_cons_self)]

/-! ### Where a patch stops -/

/-- A list that is not applied to its end stops at an operation that cannot be applied, with what
the operations before it made. -/
theorem applyAll_stops (h : applyAll ops document = (changed, some error)) :
    ∃ before op after, ops = before ++ op :: after ∧
      applyAll before document = (changed, none) ∧ apply op changed = .error error := by
  induction ops generalizing document with
  | nil => cases h
  | cons op ops ih =>
      rw [applyAll] at h
      cases applied : apply op document with
      | error e =>
          rw [applied] at h
          cases h
          exact ⟨[], op, ops, rfl, rfl, applied⟩
      | ok between =>
          rw [applied] at h
          obtain ⟨before, failing, after, rfl, reached, fails⟩ := ih h
          refine ⟨op :: before, failing, after, rfl, ?_, fails⟩
          rw [applyAll, applied]
          exact reached

/-- An operation that cannot be applied follows others that changed the document. -/
def FailsMidway (ops : List PatchOp) (document : Json) : Prop :=
  ∃ before op after changed error, ops = before ++ op :: after ∧
    applyAll before document = (changed, none) ∧ changed ≠ document ∧
    apply op changed = .error error

/-- Nothing was changed before the only operation, so it does not fail midway. -/
theorem not_failsMidway_singleton (op : PatchOp) (document : Json) :
    ¬FailsMidway [op] document := by
  rintro ⟨before, failing, after, changed, error, split, reached, different, -⟩
  have one : 1 = (before ++ failing :: after).length := congrArg List.length split
  rw [List.length_append, List.length_cons] at one
  obtain rfl : before = [] := List.length_eq_zero_iff.mp (by omega)
  exact different (Prod.mk.inj reached).1.symm

theorem changed_of_applyAll_stops (h : applyAll ops document = (changed, some error)) :
    changed = document ∨ FailsMidway ops document := by
  obtain ⟨before, op, after, split, reached, fails⟩ := applyAll_stops h
  by_cases same : changed = document
  · exact .inl same
  · exact .inr ⟨before, op, after, changed, error, split, reached, same, fails⟩

end Patch

end DocumentClient
