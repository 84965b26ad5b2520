import DocumentClient.Proofs.Query.Parameters
import DocumentClient.Query.Evaluation

/-!
# DocumentClient.Proofs.Query.Conjunctions

**The text of a conjunction of equalities is read back as those equalities.** The evaluation reads
such a text without its parentheses, as clauses between keywords; every value is looked up by the
name of its parameter, and every path is cut into its names.

* `Expr.Conjunctive` says which predicates are meant, and `Expr.equalities` what they demand. The
  predicates are trees, in which a conjunction may be grouped in any way; the equalities are a
  list.
* `Equality.Readable` excludes a field whose text ends in the keyword of a denial, which the
  evaluation would take it for: it looks for the keyword anywhere in the text.

## Proof shape

* `bare_text` writes the text without parentheses as words, one equality after the other, so that
  grouping no longer matters. Values are numbered on from left to right, and what has a number is
  a word by itself, so the list of words is that of the equalities with their numbers.
* `splitFrom_conjuncts` cuts the words into clauses again. A keyword is looked for as a word
  between blanks: it is none of the words of a clause (`mem_conjuncts`), and so it does not start
  inside of one (`skips_clauseText`).
* `readEquality?_clauseText` reads one clause. Parameters are told apart by their names, and are
  found by them wherever the numbers start (`parameter?_parametersFor`).
* `readConditions?_text` puts these together.
-/

namespace DocumentClient.Query

/-! ### Equalities -/

/-- A field that has to be equal to a value. -/
structure Equality where
  /-- The field. -/
  reference : String
  /-- The value. -/
  value : Json

/-- The names along a reference as documents store them. -/
def storedPath (reference : String) : List String :=
  (pathNames reference).map fun name => camelCase (String.ofList name)

/-- Does a document have the value in the field? -/
def Equality.holds (equality : Equality) (document : Json) : Bool :=
  (document.descend (storedPath equality.reference)).any fun value => value.equiv equality.value

/-- The equality as a condition that was read. -/
def Equality.condition (equality : Equality) : Condition :=
  ⟨storedPath equality.reference, equality.value⟩

theorem Equality.holds_condition (equality : Equality) (document : Json) :
    equality.condition.holds document = equality.holds document := by
  unfold Condition.holds Equality.holds Equality.condition
  cases document.descend (storedPath equality.reference) <;> rfl

/-- The field of an equality is a path of names, and its text does not end in the keyword of a
denial, which the evaluation would take it for. -/
structure Equality.Readable (equality : Equality) : Prop where
  /-- The reference is a path of names. -/
  path : isFieldPath equality.reference = true
  /-- Its text does not end in the keyword of a denial. -/
  noDenial : ¬"NOT".toList <:+ fieldText equality.reference

namespace Expr

/-- The equalities that a conjunction demands, in visiting order. -/
def equalities : Expr → List Equality
  | .binary .eq (.field reference) (.literal value) => [⟨reference, value⟩]
  | .logical .and left right => left.equalities ++ right.equalities
  | _ => []

/-- The conjunctions of equalities, however grouped. -/
inductive Conjunctive : Expr → Prop
  /-- One equality. -/
  | equality {equality : Equality} (readable : equality.Readable) :
    Conjunctive (.compare equality.reference .eq equality.value)
  /-- Both of two conjunctions. -/
  | and {left right : Expr} (conjunctiveLeft : Conjunctive left)
    (conjunctiveRight : Conjunctive right) : Conjunctive (left.and right)

namespace Conjunctive

variable {e : Expr}

theorem error? (h : e.Conjunctive) : e.error? = none := by
  induction h with
  | equality readable =>
      simp [compare, Expr.error?, fieldError?, readable.path, BinaryOp.isComparison]
  | and _ _ ihLeft ihRight => rw [Expr.and, Expr.error?, ihLeft, ihRight]; rfl

theorem compiles (h : e.Conjunctive) : e.Compiles :=
  compiles_of_error? e h.error?

theorem map_value_equalities (h : e.Conjunctive) :
    e.equalities.map Equality.value = e.literals := by
  induction h with
  | equality readable => rfl
  | and _ _ ihLeft ihRight =>
      rw [Expr.and, equalities, literals, List.map_append, ihLeft, ihRight]

theorem readable (h : e.Conjunctive) : ∀ equality ∈ e.equalities, equality.Readable := by
  induction h with
  | equality readable => exact List.forall_mem_singleton.mpr readable
  | and _ _ ihLeft ihRight => exact List.forall_mem_append.mpr ⟨ihLeft, ihRight⟩

end Conjunctive

end Expr

/-! ### The words of a conjunction -/

/-- The words of equalities, each after the keyword that joins them; the first value has the number
`n`. -/
def conjuncts (n : Nat) : List Equality → List (List Char)
  | [] => []
  | equality :: equalities =>
    "AND".toList :: fieldText equality.reference :: "=".toList :: Expr.parameterName n ::
      conjuncts (n + 1) equalities

theorem conjuncts_append (n : Nat) (before after : List Equality) :
    conjuncts n (before ++ after) = conjuncts n before ++ conjuncts (n + before.length) after := by
  induction before generalizing n with
  | nil => rfl
  | cons equality before ih =>
      rw [List.cons_append, conjuncts, ih, conjuncts, List.length_cons,
        show n + (before.length + 1) = n + 1 + before.length by omega]
      rfl

/-- The text of an equality, whose value has the number `n`. -/
def clauseText (n : Nat) (equality : Equality) : List Char :=
  fieldText equality.reference ++ Text.spaced ["=".toList, Expr.parameterName n]

theorem spaced_conjuncts_cons (n : Nat) (equality : Equality) (equalities : List Equality) :
    Text.spaced (conjuncts n (equality :: equalities)) =
      " AND ".toList ++ (clauseText n equality ++ Text.spaced (conjuncts (n + 1) equalities)) := by
  simp [conjuncts, clauseText, Text.spaced]

/-- A text without parentheses. -/
def bare (text : List Char) : List Char :=
  text.filter fun c => c != '(' && c != ')'

theorem bare_eq_self {text : List Char} (h : ∀ c ∈ text, c ≠ '(' ∧ c ≠ ')') : bare text = text :=
  List.filter_eq_self.mpr fun c mem => by simp [h c mem]

theorem of_mem_parameterName {n : Nat} {c : Char} (mem : c ∈ Expr.parameterName n) :
    isNameChar c = true ∨ c = '@' := by
  rcases List.mem_append.mp mem with letter | digit
  · rcases List.mem_cons.mp letter with at_sign | letter
    · exact .inr at_sign
    · have letters : "param".toList.all isNameChar = true := by decide
      exact .inl (List.all_eq_true.mp letters c letter)
  · exact .inl (isNameChar_of_isDigit (Text.isDigit_of_mem_natChars digit))

/-- An equality has no parentheses. -/
theorem bare_clauseText {equality : Equality} (path : isFieldPath equality.reference = true)
    (n : Nat) : bare (clauseText n equality) = clauseText n equality := by
  refine bare_eq_self fun c mem => ?_
  have other : isNameChar c = true ∨ c ∈ ['.', ' ', '=', '@'] := by
    simp only [clauseText, Text.spaced, List.flatMap_cons, List.flatMap_nil, List.append_nil,
      List.cons_append, List.mem_append, List.mem_cons] at mem
    rcases mem with field | rfl | equals | rfl | parameter
    · exact (isNameChar_of_mem_fieldText path field).imp id fun point => by simp [point]
    · exact .inr (by decide)
    · exact .inr (by simp_all)
    · exact .inr (by decide)
    · exact (of_mem_parameterName parameter).imp id fun at_sign => by simp [at_sign]
  constructor <;> rintro rfl <;> exact absurd other (by decide)

theorem text_equality (equality : Equality) (n : Nat) :
    (Expr.compare equality.reference .eq equality.value).text n = clauseText n equality := by
  simp [Expr.compare, Expr.text, Expr.parenthesizedIf, Expr.isCompound, Expr.literals,
    clauseText, Text.spaced, BinaryOp.symbol]

/-- **Without parentheses the grouping of a conjunction is gone.** -/
theorem Expr.Conjunctive.bare_text {e : Expr} (h : e.Conjunctive) (n : Nat) :
    " AND ".toList ++ bare (e.text n) = Text.spaced (conjuncts n e.equalities) := by
  induction h generalizing n with
  | @equality equality readable =>
      rw [text_equality, bare_clauseText readable.path]
      exact (congrArg (_ ++ ·) (List.append_nil _).symm).trans
        (spaced_conjuncts_cons n equality []).symm
  | @and left right conjunctiveLeft _ ihLeft ihRight =>
      have text : bare ((left.and right).text n) =
          bare (left.text n) ++
            (" AND ".toList ++ bare (right.text (n + left.literals.length))) := by
        simp [Expr.and, Expr.text, Expr.parenthesized, bare, LogicalOp.keyword]
      have count : left.literals.length = left.equalities.length := by
        rw [← conjunctiveLeft.map_value_equalities, List.length_map]
      rw [text, ← List.append_assoc, ihLeft, ihRight, count, ← Text.spaced_append,
        ← conjuncts_append]
      rfl

/-! ### Clauses -/

/-- A word of a conjunction is a keyword, the name of a parameter, or the text of a reference. -/
theorem mem_conjuncts {n : Nat} {equalities : List Equality} {word : List Char}
    (mem : word ∈ conjuncts n equalities) :
    word = "AND".toList ∨ word = "=".toList ∨ (∃ k, word = Expr.parameterName k) ∨
      ∃ equality ∈ equalities, word = fieldText equality.reference := by
  induction equalities generalizing n with
  | nil => exact absurd mem List.not_mem_nil
  | cons equality equalities ih =>
      simp only [conjuncts, List.mem_cons] at mem
      rcases mem with rfl | rfl | rfl | rfl | mem
      · exact .inl rfl
      · exact .inr (.inr (.inr ⟨equality, List.mem_cons_self, rfl⟩))
      · exact .inr (.inl rfl)
      · exact .inr (.inr (.inl ⟨n, rfl⟩))
      · refine (ih mem).imp id (.imp id (.imp id ?_))
        rintro ⟨other, inside, rfl⟩
        exact ⟨other, List.mem_cons_of_mem equality inside, rfl⟩

theorem blank_not_mem_fieldText {reference : String} (path : isFieldPath reference = true) :
    ' ' ∉ fieldText reference :=
  fun mem => absurd (isNameChar_of_mem_fieldText path mem) (by decide)

theorem blank_not_mem_parameterName (n : Nat) : ' ' ∉ Expr.parameterName n :=
  fun mem => absurd (of_mem_parameterName mem) (by decide)

theorem fieldText_ne (reference : String) {word : List Char}
    (first : word.head? ≠ some documentAlias) : fieldText reference ≠ word :=
  fun same => first (congrArg List.head? same).symm

theorem parameterName_ne (n : Nat) {word : List Char} (first : word.head? ≠ some '@') :
    Expr.parameterName n ≠ word :=
  fun same => first (congrArg List.head? same).symm

theorem isDigit_of_suffix_parameterName {n : Nat} {before : List Char} {c : Char}
    (suffix : before ++ [c] <:+ Expr.parameterName n) : c.isDigit = true := by
  have digits : Text.natChars n ≠ [] := Nat.toDigits_ne_nil
  have last : [c] <:+ Text.natChars n := by
    refine List.suffix_of_suffix_length_le ((List.suffix_append before [c]).trans suffix)
      (List.suffix_append "@param".toList _) ?_
    exact List.length_pos_iff.mpr digits
  exact Text.isDigit_of_mem_natChars (last.subset (List.mem_singleton_self c))

section Words

variable {n : Nat} {equalities : List Equality} {word : List Char}

theorem blank_not_mem_of_mem_conjuncts (readable : ∀ equality ∈ equalities, equality.Readable)
    (mem : word ∈ conjuncts n equalities) : ' ' ∉ word := by
  rcases mem_conjuncts mem with rfl | rfl | ⟨k, rfl⟩ | ⟨equality, inside, rfl⟩
  · decide
  · decide
  · exact blank_not_mem_parameterName k
  · exact blank_not_mem_fieldText (readable equality inside).path

theorem ne_or_of_mem_conjuncts (mem : word ∈ conjuncts n equalities) : word ≠ "OR".toList := by
  rcases mem_conjuncts mem with rfl | rfl | ⟨k, rfl⟩ | ⟨equality, -, rfl⟩
  · decide
  · decide
  · exact parameterName_ne k (by decide)
  · exact fieldText_ne equality.reference (by decide)

/-- No word of a conjunction ends in the keyword of a denial. -/
theorem noDenial_of_mem_conjuncts (readable : ∀ equality ∈ equalities, equality.Readable)
    (mem : word ∈ conjuncts n equalities) : ¬"NOT".toList <:+ word := by
  rcases mem_conjuncts mem with rfl | rfl | ⟨k, rfl⟩ | ⟨equality, inside, rfl⟩
  · decide
  · decide
  · intro suffix
    have digit := @isDigit_of_suffix_parameterName k "NO".toList 'T' suffix
    exact absurd digit (by decide)
  · exact (readable equality inside).noDenial

end Words

/-- The clauses of equalities, of which the first value has the number `n`. -/
def clauseTexts (n : Nat) : List Equality → List (List Char)
  | [] => []
  | equality :: equalities => clauseText n equality :: clauseTexts (n + 1) equalities

/-- A clause is left whole by the keyword that joins clauses. -/
theorem skips_clauseText {equality : Equality} (path : isFieldPath equality.reference = true)
    (n : Nat) {rest : List Char} (ends : Text.EndsWord rest) :
    Text.Skips " AND ".toList (clauseText n equality) rest := by
  refine Text.Skips.append_iff.mpr ⟨.of_not_mem (blank_not_mem_fieldText path) _, ?_⟩
  have others : ∀ other ∈ ["=".toList, Expr.parameterName n],
      ' ' ∉ other ∧ other ≠ "AND".toList := by
    refine List.forall_mem_cons.mpr ⟨by decide, List.forall_mem_singleton.mpr ?_⟩
    exact ⟨blank_not_mem_parameterName n, parameterName_ne n (by decide)⟩
  exact @Text.Skips.spaced _ "AND".toList [] _ (by decide) others ends

/-- **A conjunction is cut into its clauses**; before the first keyword there is nothing. -/
theorem splitFrom_conjuncts {equalities : List Equality}
    (readable : ∀ equality ∈ equalities, equality.Readable) (n : Nat) :
    Text.splitFrom " AND ".toList 0 (Text.spaced (conjuncts n equalities)) =
      [] :: clauseTexts n equalities := by
  induction equalities generalizing n with
  | nil => rfl
  | cons equality equalities ih =>
      obtain ⟨first, readable⟩ := List.forall_mem_cons.mp readable
      have ends : Text.EndsWord (Text.spaced (conjuncts (n + 1) equalities)) := by
        have := Text.EndsWord.nil.spaced (conjuncts (n + 1) equalities)
        rwa [List.append_nil] at this
      rw [spaced_conjuncts_cons, Text.splitFrom_append (by decide),
        (skips_clauseText first.path n ends).splitFrom, ih readable, Text.foldr_consFirst,
        List.append_nil]
      rfl

/-! ### Reading a clause -/

/-- The names of a path are cut apart; before the first point there is nothing. -/
theorem splitFrom_storedNamesText {names : List (List Char)} (h : names.all isName = true) :
    Text.splitFrom ['.'] 0 (storedNamesText names) = [] :: names.map storedSpelling := by
  induction names with
  | nil => rfl
  | cons name names ih =>
      rw [List.all_cons, Bool.and_eq_true] at h
      have plain : '.' ∉ storedSpelling name := fun mem =>
        absurd (List.all_eq_true.mp (all_isNameChar_storedSpelling h.1) '.' mem) (by decide)
      have text : storedNamesText (name :: names) =
          ['.'] ++ (storedSpelling name ++ storedNamesText names) := rfl
      rw [text, Text.splitFrom_append (by decide), (Text.Skips.of_not_mem plain _).splitFrom,
        ih h.2, Text.foldr_consFirst, List.append_nil]
      rfl

theorem storedPath_eq (reference : String) :
    storedPath reference = (storedNames reference).map String.ofList := by
  rw [storedPath, storedNames, List.map_map]
  exact List.map_congr_left fun name _ => by simp [camelCase]

/-- **A reference is read back** as the names along it. -/
theorem namesOf_fieldText {reference : String} (path : isFieldPath reference = true) :
    ∃ rest, Text.afterStart? "c.".toList (fieldText reference) = some rest ∧
      namesOf rest = storedPath reference := by
  have cut := splitFrom_storedNamesText path
  rw [storedPath_eq, storedNames]
  cases names : pathNames reference with
  | nil => exact absurd names (Text.splitFrom_ne_nil _ _ _)
  | cons name others =>
      refine ⟨storedSpelling name ++ storedNamesText others, ?_, ?_⟩
      · rw [fieldText, names]
        exact Text.afterStart?_append "c.".toList _
      · have text : storedNamesText (name :: others) =
            ['.'] ++ (storedSpelling name ++ storedNamesText others) := rfl
        rw [names, text, Text.splitFrom_append (by decide)] at cut
        exact congrArg (List.map String.ofList) (List.cons.inj cut).2

theorem trimChars_parameterName (n : Nat) :
    Text.trimChars (Expr.parameterName n) = Expr.parameterName n :=
  @Text.trimChars_append_natChars '@' (by decide) "param".toList n

/-- A clause has no blanks at its ends. -/
theorem trimChars_clauseText (n : Nat) (equality : Equality) :
    Text.trimChars (clauseText n equality) = clauseText n equality := by
  have text : clauseText n equality = documentAlias ::
      ((storedNamesText (pathNames equality.reference) ++ " = @param".toList) ++
        Text.natChars n) := by
    have name : Expr.parameterName n = "@param".toList ++ Text.natChars n := rfl
    simp [clauseText, fieldText, Text.spaced, name]
  rw [text]
  exact Text.trimChars_append_natChars (by decide) _ n

/-- **A clause is read back** as its equality, if the value of its parameter is that of the
equality. -/
theorem readEquality?_clauseText {statement : Statement} {equality : Equality} {n : Nat}
    (path : isFieldPath equality.reference = true)
    (known : statement.parameter? (String.ofList (Expr.parameterName n)) = some equality.value) :
    readEquality? statement (clauseText n equality) = some equality.condition := by
  obtain ⟨rest, after, names⟩ := namesOf_fieldText path
  have cut : Text.splitOnce? " = ".toList (clauseText n equality) =
      some (fieldText equality.reference, Expr.parameterName n) := by
    have text : clauseText n equality =
        fieldText equality.reference ++ (" = ".toList ++ Expr.parameterName n) := by
      simp [clauseText, Text.spaced]
    rw [text]
    exact Text.Skips.splitOnce?_append (.of_not_mem (blank_not_mem_fieldText path) _)
  unfold readEquality?
  rw [trimChars_clauseText, cut]
  dsimp only [Option.bind_eq_bind, Option.bind_some]
  rw [after, Option.bind_some, trimChars_parameterName, known, Option.bind_some, names]
  rfl

/-- The clauses of equalities are read back, if the parameters have their values. -/
theorem mapM_readEquality? {statement : Statement} {equalities : List Equality}
    (readable : ∀ equality ∈ equalities, equality.Readable) (n : Nat)
    (known : ∀ i equality, equalities[i]? = some equality →
      statement.parameter? (String.ofList (Expr.parameterName (n + i))) = some equality.value) :
    (clauseTexts n equalities).mapM (readEquality? statement) =
      some (equalities.map Equality.condition) := by
  induction equalities generalizing n with
  | nil => rfl
  | cons equality equalities ih =>
      obtain ⟨first, readable⟩ := List.forall_mem_cons.mp readable
      have rest := ih readable (n + 1) fun i other found => by
        have := known (i + 1) other found
        rwa [show n + (i + 1) = n + 1 + i by omega] at this
      have read := readEquality?_clauseText (n := n) first.path (known 0 equality rfl)
      rw [clauseTexts, List.mapM_cons, read, rest]
      rfl

/-- A parameter is found by its number, wherever the numbers start. -/
theorem find?_zipIdx_parameterName {values : List Json} (first i : Nat) {value : Json}
    (h : values[i]? = some value) :
    ((values.zipIdx first).map fun (value, n) =>
      (⟨String.ofList (Expr.parameterName n), value⟩ : Parameter)).find?
        (fun p => p.name = String.ofList (Expr.parameterName (first + i))) =
      some ⟨String.ofList (Expr.parameterName (first + i)), value⟩ := by
  induction values generalizing first i with
  | nil => cases h
  | cons other values ih =>
      rw [List.zipIdx_cons, List.map_cons]
      cases i with
      | zero =>
          obtain rfl := Option.some.inj h
          exact List.find?_cons_of_pos (decide_eq_true rfl)
      | succ i =>
          have different : ¬String.ofList (Expr.parameterName first) =
              String.ofList (Expr.parameterName (first + (i + 1))) := fun same => by
            have := parameterName_injective (String.ofList_injective same)
            omega
          rw [List.find?_cons_of_neg (by simpa using different),
            show first + (i + 1) = first + 1 + i by omega]
          exact ih (first + 1) i h

theorem parameter?_parametersFor {values : List Json} {i : Nat} {value : Json} (text : String)
    (h : values[i]? = some value) :
    (Statement.mk text (parametersFor values)).parameter? (String.ofList (Expr.parameterName i)) =
      some value := by
  have found := find?_zipIdx_parameterName 0 i h
  rw [Nat.zero_add] at found
  exact congrArg (Option.map Parameter.value) found

/-- **The conditions of a conjunction are read back.** -/
theorem readConditions?_text {e : Expr} (h : e.Conjunctive) (text : String) :
    readConditions? ⟨text, parametersFor e.literals⟩ (e.text 0) =
      some (e.equalities.map Equality.condition) := by
  have words := h.bare_text 0
  have noMore : Text.EndsWord [] := .nil
  have noDisjunction : Text.Skips " OR ".toList (bare (e.text 0)) [] := by
    have skips : Text.Skips " OR ".toList (Text.spaced (conjuncts 0 e.equalities)) [] :=
      @Text.Skips.spaced _ "OR".toList [] _ (by decide) (fun word mem =>
        ⟨blank_not_mem_of_mem_conjuncts h.readable mem, ne_or_of_mem_conjuncts mem⟩) noMore
    rw [← words] at skips
    exact (Text.Skips.append_iff.mp skips).2
  have noDenial : Text.Skips "NOT ".toList (bare (e.text 0)) [] := by
    have skips : Text.Skips "NOT ".toList (Text.spaced (conjuncts 0 e.equalities)) [] :=
      @Text.Skips.spaced_of_suffix _ "NOT".toList _ (by decide) (by decide)
        (fun word mem => ⟨blank_not_mem_of_mem_conjuncts h.readable mem,
          noDenial_of_mem_conjuncts h.readable mem⟩) noMore
    rw [← words] at skips
    exact (Text.Skips.append_iff.mp skips).2
  have clauses : Text.splitAll " AND ".toList (bare (e.text 0)) = clauseTexts 0 e.equalities := by
    have cut := splitFrom_conjuncts h.readable 0
    rw [← words, Text.splitFrom_append (by decide)] at cut
    exact (List.cons.inj cut).2
  have known : ∀ i equality, e.equalities[i]? = some equality →
      (Statement.mk text (parametersFor e.literals)).parameter?
        (String.ofList (Expr.parameterName (0 + i))) = some equality.value := by
    intro i equality found
    rw [Nat.zero_add]
    refine parameter?_parametersFor text ?_
    rw [← h.map_value_equalities, List.getElem?_map, found]
    rfl
  unfold readConditions?
  change (if Text.occursIn " OR ".toList (bare (e.text 0)) ||
    Text.occursIn "NOT ".toList (bare (e.text 0)) then none
    else (Text.splitAll " AND ".toList (bare (e.text 0))).mapM _) = _
  rw [Text.occursIn, noDisjunction.splitOnce?_eq_none (by decide), Text.occursIn,
    noDenial.splitOnce?_eq_none (by decide), clauses]
  exact mapM_readEquality? h.readable 0 known

end DocumentClient.Query
