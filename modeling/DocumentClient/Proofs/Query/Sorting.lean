import DocumentClient.Proofs.Decimal.Binary64
import DocumentClient.Query.Evaluation
import Mathlib.Data.List.Basic
import Mathlib.Data.List.Perm.Subperm

/-!
# DocumentClient.Proofs.Query.Sorting

**Documents are sorted stably, those without a value first.** They are sorted one by one: each moves
from the end to the front past all that it comes before. Values of different kinds are not ordered,
so the result is known only if all values are texts, or all are whole numbers that are exact as
floating-point ones.

* `SortKey` is what a document is sorted by; keys are linearly ordered, and `isBefore_eq` says
  that the comparison of values is that of their keys. `SortKind` says of which kind all values
  are.
* `evaluate?_cases` says what the results of any query are made of, whatever its text: a query for
  documents has some of the documents as results, each no more often than it is there, and a query
  for their number has one.

## Proof shape

A stable sort is known by two properties: what comes of it is in order, and documents with equal
keys stay in their order. Inserting from the end has a simpler one: `insertByKey_beside` is the
step, by which a document leaves every other one where it is, between those that come before it and
those that do not. `foldl_insertByKey_beside` goes along the documents, and
`reverse_foldl_insertByKey` concludes that to sort with one document more is to put it into the rest
at one place. So does the sort of the library, and `sortByPath_eq` follows by induction over the
documents. Documents stand in reverse while they are inserted, so that the induction is about the
reversed list.
-/

namespace DocumentClient.Query

/-! ### What is sorted -/

/-- To insert a document among others leaves them as they are, apart from their places. -/
theorem insertByKey_perm (document : Option Json × Json) (sorted : List (Option Json × Json)) :
    (insertByKey document sorted).Perm (document :: sorted) := by
  induction sorted with
  | nil => exact .refl _
  | cons last rest ih =>
      unfold insertByKey
      split
      · exact (ih.cons last).trans (.swap document last rest)
      · exact .refl _

theorem foldl_insertByKey_perm (documents sorted : List (Option Json × Json)) :
    (documents.foldl (fun sorted document => insertByKey document sorted) sorted).Perm
      (documents ++ sorted) := by
  induction documents generalizing sorted with
  | nil => exact .refl _
  | cons document documents ih =>
      refine (ih (insertByKey document sorted)).trans ?_
      exact ((insertByKey_perm document sorted).append_left documents).trans List.perm_middle

/-- **Sorting changes nothing but places.** -/
theorem sortByPath_perm (path : List String) (documents : List Json) :
    (sortByPath path documents).Perm documents := by
  have sorted := foldl_insertByKey_perm
    (documents.map fun document => (document.descend path, document)) []
  rw [List.append_nil] at sorted
  have placed := ((List.reverse_perm _).trans sorted).map Prod.snd
  have keyless : (documents.map fun document => (document.descend path, document)).map Prod.snd =
      documents := by
    rw [List.map_map]
    exact List.map_id documents
  rwa [keyless] at placed

/-! ### Keys -/

/-- What a document is sorted by. -/
inductive SortKey where
  /-- There is no value. -/
  | missing
  /-- The value is a whole number. -/
  | number (value : Int)
  /-- The value is a text. -/
  | text (value : String)

namespace SortKey

/-- The key that a value gives; a value of any other kind counts as missing. -/
def of : Option Json → SortKey
  | some (.int value) => .number value
  | some (.str value) => .text value
  | _ => .missing

/-- May the first key stand before the second? -/
def le : SortKey → SortKey → Bool
  | .missing, _ => true
  | .number _, .missing => false
  | .number a, .number b => a ≤ b
  | .number _, .text _ => true
  | .text a, .text b => a ≤ b
  | .text _, _ => false

theorem le_trans (a b c : SortKey) (hab : a.le b = true) (hbc : b.le c = true) :
    a.le c = true := by
  cases a <;> cases b <;> cases c <;>
    simp only [le, decide_eq_true_eq, Bool.false_eq_true] at hab hbc ⊢
  · exact Int.le_trans hab hbc
  · exact String.le_trans hab hbc

theorem le_total (a b : SortKey) : (a.le b || b.le a) = true := by
  cases a <;> cases b <;> simp only [le, Bool.or_true, Bool.true_or]
  · simpa using Int.le_total _ _
  · simpa using String.le_total _ _

end SortKey

/-- The kinds of values that documents are sorted by. -/
inductive SortKind where
  | numbers | texts

/-- A value of a kind, or none. Whole numbers have to be exact as floating-point ones. -/
def SortKind.Admits : SortKind → Option Json → Prop
  | _, none => True
  | .numbers, some value => ∃ i : Int, value = .int i ∧ i.natAbs ≤ Binary64.maxExact
  | .texts, some value => ∃ s, value = .str s

/-- **Values of one kind are compared as their keys.** -/
theorem isBefore_eq {kind : SortKind} {a b : Option Json} (ha : kind.Admits a)
    (hb : kind.Admits b) : isBefore a b = !(SortKey.of b).le (SortKey.of a) := by
  cases kind with
  | numbers =>
      cases a with
      | none =>
          cases b with
          | none => rfl
          | some b =>
              obtain ⟨j, rfl, -⟩ := hb
              rfl
      | some a =>
          obtain ⟨i, rfl, exactI⟩ := ha
          cases b with
          | none => rfl
          | some b =>
              obtain ⟨j, rfl, exactJ⟩ := hb
              have less := Binary64.lt_ofInt exactI exactJ
              have reversed : decide (i < j) = !decide (j ≤ i) := by
                rw [← decide_not]
                exact decide_eq_decide.mpr Int.not_le.symm
              simp only [isBefore, Json.asNumber?, less, SortKey.of, SortKey.le, reversed]
  | texts =>
      cases a with
      | none =>
          cases b with
          | none => rfl
          | some b =>
              obtain ⟨t, rfl⟩ := hb
              rfl
      | some a =>
          obtain ⟨s, rfl⟩ := ha
          cases b with
          | none => rfl
          | some b =>
              obtain ⟨t, rfl⟩ := hb
              have reversed : decide (s < t) = !decide (t ≤ s) := by
                rw [← decide_not]
                exact decide_eq_decide.mpr String.not_le.symm
              simp only [isBefore, SortKey.of, SortKey.le, reversed]

/-! ### Stability -/

/-- May a document stand before another? -/
def keyLe (a b : Option Json × Json) : Bool :=
  (SortKey.of a.1).le (SortKey.of b.1)

variable {kind : SortKind} {a document : Option Json × Json}
  {high low : List (Option Json × Json)}

theorem keyLe_of_not_keyLe {x : Option Json × Json} (below : keyLe a x = false)
    (before : keyLe a document = true) : keyLe x document = true := by
  have total := SortKey.le_total (SortKey.of a.1) (SortKey.of x.1)
  rw [show (SortKey.of a.1).le (SortKey.of x.1) = false from below, Bool.false_or] at total
  exact SortKey.le_trans _ _ _ total before

theorem insertByKey_stops {x : Option Json × Json} (admitted : kind.Admits document.1)
    (admits : kind.Admits x.1) (before : keyLe x document = true)
    (rest : List (Option Json × Json)) :
    insertByKey document (x :: rest) = document :: x :: rest := by
  rw [insertByKey, isBefore_eq admitted admits,
    show (SortKey.of x.1).le (SortKey.of document.1) = true from before]
  rfl

theorem insertByKey_passes {x : Option Json × Json} (admitted : kind.Admits document.1)
    (admits : kind.Admits x.1) (notBefore : keyLe x document = false)
    (rest : List (Option Json × Json)) :
    insertByKey document (x :: rest) = x :: insertByKey document rest := by
  rw [insertByKey, isBefore_eq admitted admits,
    show (SortKey.of x.1).le (SortKey.of document.1) = false from notBefore]
  rfl

/-- **Step lemma.** A document that stands in reverse order between those that may not come before
it and those that do stays between them when another one is inserted, and that one goes where it
would go without it. -/
theorem insertByKey_beside (admitted : kind.Admits document.1)
    (others : ∀ x ∈ high ++ a :: low, kind.Admits x.1)
    (above : ∀ x ∈ high, keyLe a x = true) (below : ∀ x ∈ low, keyLe a x = false) :
    ∃ high' low', insertByKey document (high ++ a :: low) = high' ++ a :: low' ∧
      insertByKey document (high ++ low) = high' ++ low' ∧
      (∀ x ∈ high', keyLe a x = true) ∧ ∀ x ∈ low', keyLe a x = false := by
  induction high with
  | nil =>
      have admitsA : kind.Admits a.1 := others a List.mem_cons_self
      cases before : keyLe a document with
      | true =>
          -- it stays above `a`, and so above all that is below
          have stops : insertByKey document low = document :: low := by
            cases low with
            | nil => rfl
            | cons x low =>
                exact insertByKey_stops admitted
                  (others x (List.mem_cons_of_mem a List.mem_cons_self))
                  (keyLe_of_not_keyLe (below x List.mem_cons_self) before) low
          exact ⟨[document], low, insertByKey_stops admitted admitsA before low, stops,
            List.forall_mem_singleton.mpr before, below⟩
      | false =>
          refine ⟨[], insertByKey document low, insertByKey_passes admitted admitsA before low, rfl,
            above, fun x mem => ?_⟩
          rcases List.mem_cons.mp ((insertByKey_perm document low).mem_iff.mp mem) with rfl | mem
          · exact before
          · exact below x mem
  | cons x high ih =>
      obtain ⟨admitsX, others⟩ := List.forall_mem_cons.mp others
      obtain ⟨aboveX, above⟩ := List.forall_mem_cons.mp above
      cases before : keyLe x document with
      | true =>
          refine ⟨document :: x :: high, low, insertByKey_stops admitted admitsX before _,
            insertByKey_stops admitted admitsX before _, ?_, below⟩
          exact List.forall_mem_cons.mpr ⟨SortKey.le_trans _ _ _ aboveX before,
            List.forall_mem_cons.mpr ⟨aboveX, above⟩⟩
      | false =>
          obtain ⟨high', low', withA, withoutA, above', below'⟩ := ih others above
          refine ⟨x :: high', low', ?_, ?_, List.forall_mem_cons.mpr ⟨aboveX, above'⟩, below'⟩
          · rw [List.cons_append, insertByKey_passes admitted admitsX before, withA,
              List.cons_append]
          · rw [List.cons_append, insertByKey_passes admitted admitsX before, withoutA,
              List.cons_append]

/-- So does it when several documents are inserted. -/
theorem foldl_insertByKey_beside {documents : List (Option Json × Json)}
    (admitted : ∀ x ∈ documents, kind.Admits x.1)
    (others : ∀ x ∈ high ++ a :: low, kind.Admits x.1)
    (above : ∀ x ∈ high, keyLe a x = true) (below : ∀ x ∈ low, keyLe a x = false) :
    ∃ high' low',
      documents.foldl (fun sorted x => insertByKey x sorted) (high ++ a :: low) =
        high' ++ a :: low' ∧
      documents.foldl (fun sorted x => insertByKey x sorted) (high ++ low) = high' ++ low' ∧
      (∀ x ∈ high', keyLe a x = true) ∧ ∀ x ∈ low', keyLe a x = false := by
  induction documents generalizing high low with
  | nil => exact ⟨high, low, rfl, rfl, above, below⟩
  | cons document documents ih =>
      obtain ⟨admits, admitted⟩ := List.forall_mem_cons.mp admitted
      obtain ⟨high', low', withA, withoutA, above', below'⟩ :=
        insertByKey_beside admits others above below
      rw [List.foldl_cons, List.foldl_cons, withA, withoutA]
      refine ih admitted (fun x mem => ?_) above' below'
      rw [← withA] at mem
      rcases List.mem_cons.mp ((insertByKey_perm document _).mem_iff.mp mem) with rfl | mem
      · exact admits
      · exact others x mem

/-- What has a property is told from what follows it and has not. -/
theorem append_inj_of_filter {α : Type} {p : α → Bool} {l l' r r' : List α}
    (hl : ∀ x ∈ l, p x = true) (hl' : ∀ x ∈ l', p x = true) (hr : ∀ x ∈ r, p x = false)
    (hr' : ∀ x ∈ r', p x = false) (h : l ++ r = l' ++ r') : l = l' ∧ r = r' := by
  have none : ∀ {cs : List α}, (∀ x ∈ cs, p x = false) → cs.filter p = [] := fun h =>
    List.filter_eq_nil_iff.mpr fun x mem => by simp [h x mem]
  have same := congrArg (List.filter p) h
  rw [List.filter_append, List.filter_append, List.filter_eq_self.mpr hl,
    List.filter_eq_self.mpr hl', none hr, none hr', List.append_nil, List.append_nil] at same
  subst same
  exact ⟨rfl, List.append_cancel_left h⟩

/-- Inserting documents one by one sorts them stably, in reverse. -/
theorem reverse_foldl_insertByKey {documents : List (Option Json × Json)}
    (admitted : ∀ x ∈ documents, kind.Admits x.1) :
    (documents.foldl (fun sorted x => insertByKey x sorted) []).reverse =
      documents.mergeSort keyLe := by
  have trans : ∀ x y z : Option Json × Json, keyLe x y = true → keyLe y z = true →
      keyLe x z = true := fun x y z => SortKey.le_trans _ _ _
  have total : ∀ x y : Option Json × Json, (keyLe x y || keyLe y x) = true := fun x y =>
    SortKey.le_total _ _
  induction documents with
  | nil => simp
  | cons a documents ih =>
      obtain ⟨admits, admitted⟩ := List.forall_mem_cons.mp admitted
      obtain ⟨high, low, withA, withoutA, above, below⟩ :=
        @foldl_insertByKey_beside kind a [] [] documents admitted
          (List.forall_mem_singleton.mpr admits) nofun nofun
      -- both sorts put `a` between those that may not come before it and those that do
      obtain ⟨before, after, sortedA, sorted, beforeA⟩ :=
        List.mergeSort_cons trans total a documents
      have ordered := List.pairwise_mergeSort trans total (a :: documents)
      rw [sortedA] at ordered
      have afterA := (List.pairwise_cons.mp (List.pairwise_append.mp ordered).2.1).1
      have same : low.reverse ++ high.reverse = before ++ after := by
        rw [← sorted, ← ih admitted, ← List.reverse_append, ← withoutA]
        rfl
      obtain ⟨lows, highs⟩ := @append_inj_of_filter _ (fun x => !keyLe a x) _ _ _ _
        (fun x mem => by simp [below x (List.mem_reverse.mp mem)]) beforeA
        (fun x mem => by simp [above x (List.mem_reverse.mp mem)])
        (fun x mem => by simp [afterA x mem]) same
      rw [List.foldl_cons]
      change (documents.foldl (fun sorted x => insertByKey x sorted) ([] ++ a :: [])).reverse = _
      rw [withA, sortedA, List.reverse_append, List.reverse_cons, lows, highs, List.append_assoc]
      rfl

/-- Documents in order of the value at a path; those with equal values, or without one, stay in the
order in which they stand. -/
def sortedBy (path : List String) (documents : List Json) : List Json :=
  documents.mergeSort fun a b =>
    (SortKey.of (a.descend path)).le (SortKey.of (b.descend path))

/-- **Documents are sorted stably** by values of one kind. -/
theorem sortByPath_eq {path : List String} {documents : List Json}
    (admitted : ∀ document ∈ documents, kind.Admits (document.descend path)) :
    sortByPath path documents = sortedBy path documents := by
  have keyed : ∀ x ∈ documents.map fun document => (document.descend path, document),
      kind.Admits x.1 := by
    intro x mem
    obtain ⟨document, inside, rfl⟩ := List.mem_map.mp mem
    exact admitted document inside
  unfold sortByPath
  dsimp only
  rw [reverse_foldl_insertByKey keyed, ← List.map_mergeSort (r := fun a b =>
    (SortKey.of (a.descend path)).le (SortKey.of (b.descend path))), List.map_map]
  · exact List.map_id _
  · exact fun _ _ _ _ => rfl

/-! ### What results are made of -/

section Results

variable {statement : Statement} {documents results : List Json}

/-- A predicate selects documents. -/
theorem selectBy?_sublist {predicate : List Char}
    (h : selectBy? statement predicate documents = some results) :
    results.Sublist documents := by
  unfold selectBy? at h
  split at h
  · obtain ⟨conditions, -, rfl⟩ := Option.map_eq_some_iff.mp h
    exact List.filter_sublist
  · split at h
    · cases h
      exact .refl _
    · cases h

/-- An order changes the places of documents. -/
theorem orderBy?_perm {text : Option (List Char)} (h : orderBy? text documents = some results) :
    results.Perm documents := by
  unfold orderBy? at h
  split at h
  · cases h
    exact .refl _
  · obtain ⟨order, -, rfl⟩ := Option.map_eq_some_iff.mp h
    unfold OrderClause.apply
    split
    · exact (List.reverse_perm _).trans (sortByPath_perm order.path documents)
    · exact sortByPath_perm order.path documents

theorem windowOf?_sublist {text : Option (List Char)}
    (h : windowOf? text documents = some results) : results.Sublist documents := by
  unfold windowOf? at h
  split at h
  · cases h
    exact .refl _
  · obtain ⟨⟨skip, take⟩, -, rfl⟩ := Option.map_eq_some_iff.mp h
    exact (List.take_sublist take _).trans (List.drop_sublist skip documents)

theorem evaluateDocuments?_subperm {text : List Char}
    (h : evaluateDocuments? statement text documents = some results) :
    results.Subperm documents := by
  unfold evaluateDocuments? at h
  obtain ⟨selected, selects, h⟩ := Option.bind_eq_some_iff.mp h
  obtain ⟨ordered, orders, h⟩ := Option.bind_eq_some_iff.mp h
  exact (windowOf?_sublist h).subperm.trans
    ((orderBy?_perm orders).subperm.trans (selectBy?_sublist selects).subperm)

theorem evaluateCount?_eq {text : List Char}
    (h : evaluateCount? statement text documents = some results) :
    ∃ count : Nat, results = [.int count] := by
  unfold evaluateCount? at h
  obtain ⟨selected, -, h⟩ := Option.bind_eq_some_iff.mp h
  exact ⟨selected.length, (Option.some.inj h).symm⟩

/-- **The results of a query** are documents, each no more often than it is there, or are one
number. -/
theorem evaluate?_cases (h : evaluate? statement documents = some results) :
    results.Subperm documents ∨ ∃ count : Nat, results = [.int count] := by
  unfold evaluate? at h
  dsimp only at h
  split at h
  · exact .inr (evaluateCount?_eq h)
  · split at h
    · exact .inl (evaluateDocuments?_subperm h)
    · cases h

theorem length_le_of_evaluate? (h : evaluate? statement documents = some results) :
    results.length ≤ documents.length + 1 := by
  rcases evaluate?_cases h with some | ⟨count, rfl⟩
  · exact Nat.le_succ_of_le some.length_le
  · exact Nat.succ_le_succ (Nat.zero_le _)

end Results

end DocumentClient.Query
