import DocumentClient.Proofs.Keyed
import DocumentClient.Proofs.Patch
import DocumentClient.Proofs.Text.Split

/-!
# DocumentClient.Proofs.Patch.Independence

**What an operation of a patch does depends on one field of a document, and concerns no other.**

* `PatchOp.Addresses` reads the field off the text of a path: the name after the slash, or what
  the first of several names stands for. `PatchOp.addresses_iff` says that it is the field which
  the operation changes, or inside of which it does.
* `edit` is what becomes of that field, and `apply_obj` says that an operation is its edit: it
  reads the field, and puts the edited one in its place. An edit may put a value, or nothing,
  which is to remove the field; that is why fields are changed by `Keyed.put`.
* So a field that no path starts with is left alone, and operations on different fields may be
  applied in either order (`local_and_commuting`).

## Proof shape

The only look into `apply` is in `apply_obj`. After it two operations are two edits, each of which
reads what the other one does not put (`apply_put`), so either both succeed in both orders, or one
of them is refused in both. That the two documents are the same, and not only alike, is
`Keyed.Map.put_comm`: the fields of the document have to be in order, as those of every document are
that was read. The frame holds of any list of fields.

The last name of a path is taken to the letter, while the names before it may hold escapes; a field
with a slash or a tilde in its name can therefore be addressed in two ways that differ.
-/

namespace DocumentClient

/-! ### The field that a path addresses -/

/-- The path of an operation addresses a field of a document. A path of one name is taken to the
letter; in a longer one the first name is a pointer token, which may hold escapes. -/
inductive PatchOp.Addresses (op : PatchOp) : String → Prop
  /-- The field itself. -/
  | leaf (name : List Char) (last : '/' ∉ name) (path : op.path.toList = '/' :: name) :
      op.Addresses (String.ofList name)
  /-- Something inside of the field. -/
  | inside (token rest : List Char) (first : '/' ∉ token)
      (path : op.path.toList = '/' :: (token ++ '/' :: rest)) :
      op.Addresses (String.ofList (Json.unescapeToken token))

namespace Json

theorem pointerTokens?_cons {token : List Char} (first : '/' ∉ token) :
    pointerTokens? ('/' :: token) = some [String.ofList (unescapeToken token)] := by
  have skips : Text.Skips ['/'] token [] := Text.Skips.of_not_mem first _
  have split : Text.splitAt '/' token = [token] := by
    have parts := skips.splitFrom
    rwa [List.append_nil, Text.splitFrom, Text.foldr_consFirst, List.append_nil] at parts
  rw [pointerTokens?, split, List.map_singleton]

/-- The tokens of a pointer, one after the other. -/
theorem pointerTokens?_append {token : List Char} (first : '/' ∉ token) (rest : List Char) :
    ∃ tokens, pointerTokens? ('/' :: (token ++ '/' :: rest)) =
      some (String.ofList (unescapeToken token) :: tokens) := by
  have skips : Text.Skips ['/'] token (['/'] ++ rest) := Text.Skips.of_not_mem first _
  have split : Text.splitAt '/' (token ++ '/' :: rest) = token :: Text.splitFrom ['/'] 0 rest := by
    have parts := skips.splitFrom
    rwa [Text.splitFrom_append (List.cons_ne_nil _ _), Text.foldr_consFirst,
      List.append_nil] at parts
  rw [pointerTokens?, split, List.map_cons]
  exact ⟨_, rfl⟩

theorem eq_of_unescapeToken {token : List Char} (tilde : '~' ∉ unescapeToken token)
    (slash : '/' ∉ unescapeToken token) : unescapeToken token = token := by
  fun_induction unescapeToken token with
  | case1 rest ih => exact absurd List.mem_cons_self slash
  | case2 rest ih => exact absurd List.mem_cons_self tilde
  | case3 c rest _ _ ih =>
      rw [ih (mt (List.mem_cons_of_mem c) tilde) (mt (List.mem_cons_of_mem c) slash)]
  | case4 => rfl

end Json

namespace PatchOp

variable {op : PatchOp} {name : String}

/-- The field that a path addresses is the one that the operation changes. -/
theorem Addresses.field?_eq (addresses : op.Addresses name) : op.field? = some name := by
  unfold PatchOp.field?
  cases addresses with
  | leaf name last path =>
      have cut : Text.splitLast? '/' op.path.toList = some ([], name) := by
        rw [path]
        exact Text.splitLast?_append last []
      simp only [cut, Json.pointerTokens?]
  | inside token rest first path =>
      by_cases more : '/' ∈ rest
      · -- the last name of the path is further inside
        obtain ⟨last, between, turned, ends⟩ :=
          List.eq_append_cons_of_mem (List.mem_reverse.mpr more)
        have whole : rest = between.reverse ++ '/' :: last.reverse := by
          simpa using congrArg List.reverse turned
        have cut : Text.splitLast? '/' op.path.toList =
            some ('/' :: (token ++ '/' :: between.reverse), last.reverse) := by
          rw [path, whole, Text.splitLast?_eq_some_iff]
          exact ⟨by simp, mt List.mem_reverse.mp ends⟩
        obtain ⟨tokens, pointer⟩ := Json.pointerTokens?_append first between.reverse
        simp only [cut, pointer]
      · have cut : Text.splitLast? '/' op.path.toList = some ('/' :: token, rest) := by
          rw [path]
          exact Text.splitLast?_append more ('/' :: token)
        simp only [cut, Json.pointerTokens?_cons first]

theorem exists_addresses {cs : List Char} (path : op.path.toList = '/' :: cs) :
    ∃ name, op.Addresses name := by
  by_cases more : '/' ∈ cs
  · obtain ⟨token, rest, split, first⟩ := List.eq_append_cons_of_mem more
    exact ⟨_, .inside token rest first (path.trans (congrArg _ split))⟩
  · exact ⟨_, .leaf cs more path⟩

/-- An operation that changes a field has a path that starts with a slash. -/
theorem exists_path_of_field? (field : op.field? = some name) :
    ∃ cs, op.path.toList = '/' :: cs := by
  unfold PatchOp.field? at field
  cases cut : Text.splitLast? '/' op.path.toList with
  | none =>
      rw [cut] at field
      cases field
  | some parts =>
      obtain ⟨parent, last⟩ := parts
      have path := (Text.splitLast?_eq_some_iff.mp cut).1
      simp only [cut] at field
      cases parent with
      | nil => exact ⟨last, path⟩
      | cons c parent =>
          by_cases slash : c = '/'
          · exact ⟨_, slash ▸ path⟩
          · have nowhere : Json.pointerTokens? (c :: parent) = none := by
              unfold Json.pointerTokens?
              split <;> simp_all
            rw [nowhere] at field
            cases field

/-- **A path addresses the field that its operation changes**, or inside of which it does. -/
theorem addresses_iff : op.Addresses name ↔ op.field? = some name := by
  refine ⟨Addresses.field?_eq, fun field => ?_⟩
  obtain ⟨cs, path⟩ := exists_path_of_field? field
  obtain ⟨name', addresses⟩ := exists_addresses path
  obtain rfl : name' = name := Option.some.inj (addresses.field?_eq.symm.trans field)
  exact addresses

/-- A path does not start with a name. -/
def StartsElsewhere (op : PatchOp) (name : String) : Prop :=
  op.path ≠ "/" ++ name ∧ ¬("/" ++ name ++ "/").toList <+: op.path.toList

/-- An operation whose path starts elsewhere leaves a field alone, if its name needs no escapes. -/
theorem field?_ne_of_startsElsewhere (slash : '/' ∉ name.toList) (tilde : '~' ∉ name.toList)
    (elsewhere : op.StartsElsewhere name) : op.field? ≠ some name := by
  intro field
  have addresses := addresses_iff.mpr field
  generalize named : name = addressed at addresses
  cases addresses with
  | leaf cs last path =>
      subst named
      refine elsewhere.1 (String.toList_injective ?_)
      simpa using path
  | inside token rest first path =>
      have token_eq : token = name.toList := by
        have unescaped : Json.unescapeToken token = name.toList := by
          rw [named, String.toList_ofList]
        rw [← unescaped] at slash tilde ⊢
        exact (Json.eq_of_unescapeToken tilde slash).symm
      refine elsewhere.2 ⟨rest, ?_⟩
      simp [path, token_eq]

end PatchOp

namespace Patch

variable {op first second : PatchOp} {name name' : String} {fields : List (String × Json)}

/-! ### An operation is an edit of its field -/

/-- What an operation makes of the field that its path ends in. -/
def editLast : PatchOp → Option Json → Except ApplyError (Option Json)
  | .add _ value, _ | .set _ value, _ => .ok (some value)
  | .replace _ value, some _ => .ok (some value)
  | .replace path _, none => .error (.missing path)
  | .remove _, _ => .ok none
  | .increment _ amount, current =>
    let current := (current.bind Json.asInt64?).getD 0
    match amount.asInt64? with
    | none => .error .amount
    | some amount =>
      if Word.isSigned64 (current + amount) then .ok (some (.int (current + amount)))
      else .error .overflow

/-- What an operation makes of the field that it changes, or inside of which it does. -/
def edit (op : PatchOp) (current : Option Json) : Except ApplyError (Option Json) :=
  match Text.splitLast? '/' op.path.toList with
  | none => .error (.noSlash op.path)
  | some (parent, name) =>
    match Json.pointerTokens? parent with
    | none => .error (.parent op.path)
    | some [] => editLast op current
    | some (_ :: tokens) =>
      match current with
      | none => .error (.parent op.path)
      | some value =>
        (Json.modifyObject (.parent op.path) (changeFields op (String.ofList name)) tokens
          value).map some

/-- The field that a path ends in is put in its place. -/
theorem changeFields_eq (op : PatchOp) (name : String) (fields : List (String × Json)) :
    changeFields op name fields =
      (editLast op (Keyed.find? name fields)).map (Keyed.put name · fields) := by
  cases op with
  | add path value | set path value | remove path => rfl
  | replace path value =>
      cases found : Keyed.find? name fields <;>
        simp [changeFields, editLast, Keyed.contains, found, Except.map, Keyed.put]
  | increment path amount =>
      simp only [changeFields, editLast]
      cases amount.asInt64? with
      | none => rfl
      | some amount =>
          dsimp only
          split <;> rfl

/-- **An operation on an object is an edit of one field**, which is put in its place. -/
theorem apply_obj (field : op.field? = some name) (fields : List (String × Json)) :
    apply op (.obj fields) =
      (edit op (Keyed.find? name fields)).map fun value => .obj (Keyed.put name value fields) := by
  unfold PatchOp.field? at field
  unfold apply edit
  cases cut : Text.splitLast? '/' op.path.toList with
  | none =>
      rw [cut] at field
      cases field
  | some parts =>
      obtain ⟨parent, last⟩ := parts
      simp only [cut] at field ⊢
      cases pointer : Json.pointerTokens? parent with
      | none =>
          rw [pointer] at field
          cases field
      | some tokens =>
          simp only [pointer] at field ⊢
          cases tokens with
          | nil =>
              obtain rfl := Option.some.inj field
              simp only [Json.modifyObject, changeFields_eq]
              cases editLast op (Keyed.find? (String.ofList last) fields) <;> rfl
          | cons token tokens =>
              obtain rfl := Option.some.inj field
              simp only [Json.modifyObject]
              cases Keyed.find? token fields with
              | none => rfl
              | some value =>
                  dsimp only
                  cases Json.modifyObject (.parent op.path) (changeFields op (String.ofList last))
                    tokens value <;> rfl

theorem apply_eq_error_iff (field : op.field? = some name) {error : ApplyError} :
    apply op (.obj fields) = .error error ↔ edit op (Keyed.find? name fields) = .error error := by
  rw [apply_obj field]
  cases edit op (Keyed.find? name fields) <;> simp [Except.map]

/-! ### Two operations -/

theorem apply_put (field : op.field? = some name) (different : name ≠ name')
    (value : Option Json) :
    apply op (.obj (Keyed.put name' value fields)) =
      (edit op (Keyed.find? name fields)).map fun edited =>
        .obj (Keyed.put name edited (Keyed.put name' value fields)) := by
  rw [apply_obj field, Keyed.find?_put_of_ne different]

theorem applyAll_pair (field : first.field? = some name) (field' : second.field? = some name')
    (different : name ≠ name') {value value' : Option Json}
    (edited : edit first (Keyed.find? name fields) = .ok value)
    (edited' : edit second (Keyed.find? name' fields) = .ok value') :
    applyAll [first, second] (.obj fields) =
      (.obj (Keyed.put name' value' (Keyed.put name value fields)), none) := by
  simp only [applyAll, apply_obj field, edited, Except.map, apply_put field' different.symm,
    edited']

/-- An operation that is refused on the document itself is refused in both orders; of two, the one
that comes first. -/
theorem applyAll_pair_refused (field : first.field? = some name)
    (field' : second.field? = some name') (different : name ≠ name')
    (refused : (∃ error, apply first (.obj fields) = .error error) ∨
      ∃ error, apply second (.obj fields) = .error error) :
    ∃ error, (applyAll [first, second] (.obj fields)).2 = some error ∧
      (apply first (.obj fields) = .error error ∨ apply second (.obj fields) = .error error) := by
  simp only [apply_eq_error_iff field, apply_eq_error_iff field'] at refused ⊢
  cases edited : edit first (Keyed.find? name fields) with
  | error error =>
      refine ⟨error, ?_, .inl rfl⟩
      simp only [applyAll, apply_obj field, edited, Except.map]
  | ok value =>
      rcases refused with ⟨error, refused⟩ | ⟨error, refused⟩
      · rw [edited] at refused
        cases refused
      · refine ⟨error, ?_, .inr refused⟩
        simp only [applyAll, apply_obj field, edited, Except.map, apply_put field' different.symm,
          refused]

/-- Two operations can be applied to a document in either order, with one document at the end, or
in neither. What is refused then, one of them is refused on the document itself. -/
def Commute (first second : PatchOp) (document : Json) : Prop :=
  (∃ changed, applyAll [first, second] document = (changed, none) ∧
    applyAll [second, first] document = (changed, none)) ∨
  ∃ error error', (applyAll [first, second] document).2 = some error ∧
    (applyAll [second, first] document).2 = some error' ∧
    ∀ refusal ∈ [error, error'],
      apply first document = .error refusal ∨ apply second document = .error refusal

/-- Operations on different fields commute. -/
theorem commute_of_ne (field : first.field? = some name) (field' : second.field? = some name')
    (different : name ≠ name') (fields : Keyed.Map String Json) :
    Commute first second (.obj fields) := by
  have neither (refused : (∃ error, apply first (.obj fields) = .error error) ∨
      ∃ error, apply second (.obj fields) = .error error) :
      Commute first second (.obj fields) := by
    obtain ⟨error, fails, own⟩ := applyAll_pair_refused field field' different refused
    obtain ⟨error', fails', own'⟩ :=
      applyAll_pair_refused field' field different.symm refused.symm
    refine .inr ⟨error, error', fails, fails', fun refusal mem => ?_⟩
    rcases List.mem_pair.mp mem with rfl | rfl
    · exact own
    · exact own'.symm
  cases edited : edit first (Keyed.find? name fields) with
  | error error => exact neither (.inl ⟨error, (apply_eq_error_iff field).mpr edited⟩)
  | ok value =>
      cases edited' : edit second (Keyed.find? name' fields) with
      | error error => exact neither (.inr ⟨error, (apply_eq_error_iff field').mpr edited'⟩)
      | ok value' =>
          refine .inl ⟨_, applyAll_pair field field' different edited edited', ?_⟩
          rw [applyAll_pair field' field different.symm edited' edited]
          exact congrArg (fun map : Keyed.Map String Json => (Json.obj map, none))
            (fields.put_comm different value value')

/-- **A patch is local, and operations on different fields commute.** However far a list of
operations can be applied to an object, every field stays as it is whose name needs no escapes and
is at the start of no path. Two operations whose paths address different fields can be applied in
either order, with the same document at the end, or in neither. -/
theorem local_and_commuting :
    (∀ (ops : List PatchOp) (fields : List (String × Json)),
      ∃ fields', (applyAll ops (.obj fields)).1 = .obj fields' ∧
        ∀ name : String, '/' ∉ name.toList → '~' ∉ name.toList →
          (∀ op ∈ ops, op.StartsElsewhere name) →
          Keyed.find? name fields' = Keyed.find? name fields) ∧
    ∀ (first second : PatchOp) (name name' : String) (fields : Keyed.Map String Json),
      first.Addresses name → second.Addresses name' → name ≠ name' →
      Commute first second (.obj fields) := by
  constructor
  · intro ops fields
    obtain ⟨fields', reached, kept⟩ := find?_of_applyAll ops fields
    refine ⟨fields', reached, fun name slash tilde elsewhere => kept name fun op mem => ?_⟩
    exact PatchOp.field?_ne_of_startsElsewhere slash tilde (elsewhere op mem)
  · intro first second name name' fields addresses addresses' different
    exact commute_of_ne addresses.field?_eq addresses'.field?_eq different fields

/-- A document with a slash in the name of a field. -/
def slashed : Keyed.Map String Json where
  entries := [("a/b", .obj [("x", .int 1)]), ("id", .str "g1"), ("n", .int 1)]

/-- A change inside of the field, whose name is escaped in the path, leaves the id alone and
commutes with an increment. -/
theorem local_and_commuting_escaped :
    (∃ fields', (applyAll [.set "/a~1b/x" (.int 5), .increment "/n" (.int 2)] (.obj slashed)).1 =
        .obj fields' ∧
      (∀ op ∈ [PatchOp.set "/a~1b/x" (.int 5), .increment "/n" (.int 2)],
        op.StartsElsewhere "id") ∧
      Keyed.find? "id" fields' = some (.str "g1")) ∧
    (PatchOp.set "/a~1b/x" (.int 5)).Addresses "a/b" ∧
    (PatchOp.increment "/n" (.int 2)).Addresses "n" ∧
    Commute (.set "/a~1b/x" (.int 5)) (.increment "/n" (.int 2)) (.obj slashed) := by
  have elsewhere : ∀ op ∈ [PatchOp.set "/a~1b/x" (.int 5), .increment "/n" (.int 2)],
      op.StartsElsewhere "id" := by
    intro op mem
    rcases List.mem_pair.mp mem with rfl | rfl <;> exact ⟨by decide, by decide⟩
  have inside : (PatchOp.set "/a~1b/x" (.int 5)).Addresses "a/b" :=
    .inside ['a', '~', '1', 'b'] ['x'] (by decide) (by decide)
  have itself : (PatchOp.increment "/n" (.int 2)).Addresses "n" :=
    .leaf ['n'] (by decide) (by decide)
  obtain ⟨fields', reached, kept⟩ := local_and_commuting.1
    [.set "/a~1b/x" (.int 5), .increment "/n" (.int 2)] slashed
  refine ⟨⟨fields', reached, elsewhere, ?_⟩, inside, itself, ?_⟩
  · exact (kept "id" (by decide) (by decide) elsewhere).trans rfl
  · exact local_and_commuting.2 _ _ "a/b" "n" slashed inside itself (by decide)

end Patch

end DocumentClient
