import DocumentClient.Proofs.Query.Evaluation
import Mathlib.Data.List.Induction

/-!
# DocumentClient.Proofs.Query.Building

**What a sequence of clauses asks for.** The equalities of all predicates have to hold; of the other
clauses of one kind the last one counts.

A plan is built clause by clause from the first one on, so what it comes to is shown by induction on
the clauses from the last one on: `ofClauses_concat` takes it off. `equalities_ofClauses` is that
induction for the predicates, and `field_ofClauses` for any other part of a plan. The four parts
differ only in the clauses that set them (`setsOrder`, `setsSkip`, `setsTake`, `setsPartition`), so
the induction is done once, for any way to read a part off a clause.

A clause may set a part to nothing, and then the part is not set: `setsPartition` gives an optional
key where a clause sets one, and nothing where a clause says nothing of the partition.

* `asked` is what clauses ask for over some documents, without a plan; `results_ofClauses` says
  that these are the results of the plan.
* `Answerable` collects what clauses need so that there is an answer at all: conjunctions of
  equalities as predicates, numbers that are words of 32 bits, and values of one kind at the path
  of the order.
-/

namespace DocumentClient.Query

/-! ### Clauses -/

namespace Clause

/-- The equalities that a clause demands. -/
def equalities : Clause → List Equality
  | .filter predicate => predicate.equalities
  | _ => []

/-- What a clause sets the order of a plan to, if it does. -/
def setsOrder : Clause → Option (Option Order)
  | .orderBy reference => some (some ⟨reference, false⟩)
  | .orderByDescending reference => some (some ⟨reference, true⟩)
  | _ => none

/-- What a clause sets the number of documents to leave out to, if it does. -/
def setsSkip : Clause → Option (Option Nat)
  | .skip count => some (some count)
  | _ => none

/-- What a clause sets the number of documents to return to, if it does. -/
def setsTake : Clause → Option (Option Nat)
  | .take count => some (some count)
  | _ => none

/-- What a clause sets the partition of a plan to, if it does. -/
def setsPartition : Clause → Option (Option PartitionKey)
  | .partition key => some key
  | _ => none

/-- A clause that can be evaluated: a predicate is a conjunction of equalities, and numbers are
words of 32 bits. -/
def Plain : Clause → Prop
  | .filter predicate => predicate.Conjunctive
  | .skip count | .take count => count ≤ Word.max32
  | _ => True

end Clause

/-- What the last of the clauses sets a part of a plan to. -/
def lastSet {α : Type} (part : Clause → Option (Option α)) (clauses : List Clause) : Option α :=
  (clauses.filterMap part).getLast?.join

section
variable {α : Type} {clauses : List Clause}

theorem lastSet_concat (part : Clause → Option (Option α)) (clauses : List Clause)
    (clause : Clause) :
    lastSet part (clauses ++ [clause]) = (part clause).getD (lastSet part clauses) := by
  unfold lastSet
  rw [List.filterMap_append]
  cases sets : part clause with
  | none => simp [sets]
  | some value => simp [sets]

namespace Plan

theorem ofClauses_concat (clauses : List Clause) (clause : Clause) :
    ofClauses (clauses ++ [clause]) = (ofClauses clauses).add clause :=
  List.foldl_concat add {} clause clauses

/-- **Predicates add up.** -/
theorem equalities_ofClauses (clauses : List Clause) :
    (ofClauses clauses).equalities = clauses.flatMap Clause.equalities := by
  induction clauses using List.reverseRecOn with
  | nil => rfl
  | append_singleton clauses clause ih =>
      rw [ofClauses_concat, List.flatMap_append, List.flatMap_singleton, ← ih]
      cases clause with
      | filter predicate =>
          simp only [add, addFilter, equalities, Clause.equalities]
          cases (ofClauses clauses).filter <;> rfl
      | _ => exact (List.append_nil _).symm

/-- **The last clause counts** for any part of a plan that clauses set. -/
theorem field_ofClauses {field : Plan → Option α} {part : Clause → Option (Option α)}
    (empty : field {} = none)
    (step : ∀ plan clause, field (add plan clause) = (part clause).getD (field plan))
    (clauses : List Clause) : field (ofClauses clauses) = lastSet part clauses := by
  induction clauses using List.reverseRecOn with
  | nil => exact empty
  | append_singleton clauses clause ih => rw [ofClauses_concat, step, lastSet_concat, ih]

theorem order_ofClauses (clauses : List Clause) :
    (ofClauses clauses).order = lastSet Clause.setsOrder clauses :=
  field_ofClauses rfl (fun _ clause => by cases clause <;> rfl) clauses

theorem skip_ofClauses (clauses : List Clause) :
    (ofClauses clauses).skip = lastSet Clause.setsSkip clauses :=
  field_ofClauses rfl (fun _ clause => by cases clause <;> rfl) clauses

theorem take_ofClauses (clauses : List Clause) :
    (ofClauses clauses).take = lastSet Clause.setsTake clauses :=
  field_ofClauses rfl (fun _ clause => by cases clause <;> rfl) clauses

theorem partition_ofClauses (clauses : List Clause) :
    (ofClauses clauses).partition = lastSet Clause.setsPartition clauses :=
  field_ofClauses rfl (fun _ clause => by cases clause <;> rfl) clauses

end Plan

/-! ### What is asked for -/

/-- The results that clauses ask for. -/
def asked (pageSize : Nat) (clauses : List Clause) : List Json → List Json :=
  resultsOf pageSize (clauses.flatMap Clause.equalities) (lastSet Clause.setsOrder clauses)
    (lastSet Clause.setsSkip clauses) (lastSet Clause.setsTake clauses)

theorem results_ofClauses (pageSize : Nat) (clauses : List Clause) (documents : List Json) :
    (Plan.ofClauses clauses).results pageSize documents = asked pageSize clauses documents := by
  rw [Plan.results, Plan.equalities_ofClauses, Plan.order_ofClauses, Plan.skip_ofClauses,
    Plan.take_ofClauses]
  rfl

/-- The predicate of a plan of plain clauses is a conjunction. -/
theorem Plan.conjunctive_ofClauses (plain : ∀ clause ∈ clauses, clause.Plain) :
    ∀ e ∈ (ofClauses clauses).filter, e.Conjunctive := by
  induction clauses using List.reverseRecOn with
  | nil => nofun
  | append_singleton clauses clause ih =>
      obtain ⟨before, last⟩ := List.forall_mem_append.mp plain
      have conjunctive := ih before
      have plainLast := last clause (List.mem_singleton_self clause)
      rw [ofClauses_concat]
      cases clause with
      | filter predicate =>
          -- a predicate is put after those that the plan has
          rintro e ⟨rfl⟩
          cases filter : (ofClauses clauses).filter with
          | none => exact plainLast
          | some existing => exact .and (conjunctive existing filter) plainLast
      | _ => exact conjunctive

theorem exists_of_mem_lastSet {part : Clause → Option (Option α)} {value : α}
    (h : value ∈ lastSet part clauses) : ∃ clause ∈ clauses, part clause = some (some value) := by
  have last : (clauses.filterMap part).getLast? = some (some value) := Option.join_eq_some_iff.mp h
  exact List.mem_filterMap.mp (List.mem_of_getLast? last)

theorem le_of_mem_lastSet (plain : ∀ clause ∈ clauses, clause.Plain) {n : Nat}
    (h : n ∈ lastSet Clause.setsSkip clauses ∨ n ∈ lastSet Clause.setsTake clauses) :
    n ≤ Word.max32 := by
  rcases h with h | h <;> obtain ⟨clause, mem, sets⟩ := exists_of_mem_lastSet h
  all_goals
    have plain := plain clause mem
    cases clause <;> cases sets
    exact plain

/-- Clauses that can be answered over documents: all are plain, and the order has a path at which
the documents that are selected have values of one kind. -/
structure Answerable (clauses : List Clause) (documents : List Json) : Prop where
  /-- Predicates are conjunctions, and numbers are words. -/
  plain : ∀ clause ∈ clauses, clause.Plain
  /-- The reference of the order is a path of names. -/
  path : ∀ order ∈ lastSet Clause.setsOrder clauses, isFieldPath order.reference = true
  /-- The values at the path of the order are of one kind. -/
  admitted : ∀ order ∈ lastSet Clause.setsOrder clauses, ∃ kind : SortKind,
    ∀ document ∈ selected (clauses.flatMap Clause.equalities) documents,
      kind.Admits (document.descend (storedPath order.reference))

theorem getD_le {count : Option Nat} {default bound : Nat} (within : ∀ n ∈ count, n ≤ bound)
    (fits : default ≤ bound) : count.getD default ≤ bound := by
  cases count with
  | none => exact fits
  | some n => exact within n rfl

/-- **The plan of such clauses can be evaluated.** -/
theorem Answerable.evaluable {documents : List Json} (h : Answerable clauses documents)
    {pageSize : Nat} (fits : pageSize ≤ Word.max32) :
    (Plan.ofClauses clauses).Evaluable pageSize documents where
  conjunctive := Plan.conjunctive_ofClauses h.plain
  path := by
    rw [Plan.order_ofClauses]
    exact h.path
  admitted := by
    rw [Plan.order_ofClauses, Plan.equalities_ofClauses]
    exact h.admitted
  skips := by
    rw [Plan.skip_ofClauses]
    exact Nat.le_trans (getD_le (fun _ set => le_of_mem_lastSet h.plain (.inl set)) (by decide))
      (by decide)
  takes := by
    rw [Plan.take_ofClauses]
    exact Nat.le_trans (getD_le (fun _ set => le_of_mem_lastSet h.plain (.inr set)) fits)
      (by decide)

end

end DocumentClient.Query
