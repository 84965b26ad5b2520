import DocumentClient.Keyed
import Mathlib.Data.List.Perm.Basic

/-!
# DocumentClient.Proofs.Keyed

**A map is known by what is found in it.** The order of the keys leaves no choice in how entries are
written down, so that maps in which the same is found are equal (`Map.ext_find?`). That is where the
order is used: no entry occurs twice, so that the entries of two such maps are the same but for
their places, and a strict order leaves one way to place them. Everything after it speaks of `find?`
alone, and needs no induction over entries.

* `mem_iff_find?` is the way between entries and what is found, for statements about all entries.
* To store what is stored already changes nothing (`Map.insert_of_find?`): a document that a store
  writes back as it was leaves no trace.
* `put` stores a value or removes what there is, as an edit of a field does. To put under one key
  and to put under another commute (`Map.put_comm`).

The functions on plain lists have their lemmas here too, as far as the fields of an object need
them; `find?_concat` is about lists that are not in order, as the handles of a connection are.
-/

namespace DocumentClient.Keyed

variable {κ ν : Type} [DecidableEq κ]

theorem find?_concat (k k' : κ) (v : ν) (entries : List (κ × ν)) :
    find? k (entries ++ [(k', v)]) = (find? k entries).or (if k = k' then some v else none) := by
  induction entries with
  | nil => rfl
  | cons first rest ih =>
      obtain ⟨k₀, v₀⟩ := first
      simp only [List.cons_append, find?, ih]
      split <;> rfl

/-- Under the keys that are kept the same is found, under the others nothing. -/
theorem find?_filter (p : κ → Bool) (k : κ) (entries : List (κ × ν)) :
    find? k (entries.filter fun entry => p entry.1) = if p k then find? k entries else none := by
  induction entries with
  | nil => simp
  | cons first rest ih =>
      obtain ⟨k', v'⟩ := first
      by_cases same : k = k'
      · subst same
        cases kept : p k <;> simp_all [find?]
      · cases kept : p k' <;> simp [kept, find?, same, ih]

variable [LT κ]

theorem Map.find?_filterKeys (map : Map κ ν) (p : κ → Bool) (k : κ) :
    (map.filterKeys p).find? k = if p k then map.find? k else none :=
  find?_filter p k map.entries

omit [DecidableEq κ] in
theorem Map.mem_filterKeys {map : Map κ ν} {p : κ → Bool} {entry : κ × ν} :
    entry ∈ map.filterKeys p ↔ entry ∈ map ∧ p entry.1 = true :=
  List.mem_filter

/-! ### What is in a map -/

section Members

variable [Std.Asymm (α := κ) (· < ·)]

omit [DecidableEq κ] in
theorem Sorted.nodup {entries : List (κ × ν)} (sorted : Sorted entries) : entries.Nodup :=
  List.Pairwise.imp (fun {a b} before (same : a = b) =>
    Std.Asymm.asymm a.1 b.1 before (same ▸ before)) sorted

/-- What is among entries in order is found. -/
theorem Sorted.find?_of_mem {k : κ} {v : ν} {entries : List (κ × ν)} (sorted : Sorted entries)
    (mem : (k, v) ∈ entries) : find? k entries = some v := by
  induction entries with
  | nil => cases mem
  | cons first rest ih =>
      obtain ⟨k', v'⟩ := first
      obtain ⟨below, sorted⟩ := List.pairwise_cons.mp sorted
      unfold find?
      rcases List.mem_cons.mp mem with same | mem
      · obtain ⟨rfl, rfl⟩ := Prod.mk.inj same
        exact if_pos rfl
      · have after : k' < k := below (k, v) mem
        have different : k ≠ k' := fun same => Std.Asymm.asymm k' k after (same ▸ after)
        rw [if_neg different]
        exact ih sorted mem

namespace Map

theorem mem_iff_find? {map : Map κ ν} {k : κ} {v : ν} : (k, v) ∈ map ↔ map.find? k = some v :=
  ⟨map.sorted.find?_of_mem, mem_of_find?⟩

/-- **Maps are the same if the same is found in them.** -/
theorem ext_find? {map map' : Map κ ν} (same : ∀ k, map.find? k = map'.find? k) : map = map' := by
  have members (entry : κ × ν) : entry ∈ map ↔ entry ∈ map' := by
    obtain ⟨k, v⟩ := entry
    rw [mem_iff_find?, mem_iff_find?, same]
  obtain ⟨entries, sorted⟩ := map
  obtain ⟨entries', sorted'⟩ := map'
  have perm : entries.Perm entries' :=
    (List.perm_ext_iff_of_nodup sorted.nodup sorted'.nodup).mpr members
  obtain rfl : entries = entries' := perm.eq_of_pairwise
    (fun a b _ _ before after => absurd after (Std.Asymm.asymm a.1 b.1 before)) sorted sorted'
  rfl

end Map

end Members

/-! ### Putting what there is -/

section Put

variable [DecidableLT κ]

/-- Stores a value under a key; if there is none, removes what was stored there. -/
def put (k : κ) : Option ν → List (κ × ν) → List (κ × ν)
  | some v, entries => insert k v entries
  | none, entries => erase k entries

@[simp] theorem find?_put_self (k : κ) (value : Option ν) (entries : List (κ × ν)) :
    find? k (put k value entries) = value := by
  cases value with
  | some v => exact find?_insert_self k v entries
  | none => exact find?_erase_self k entries

theorem find?_put_of_ne {k k' : κ} (h : k' ≠ k) (value : Option ν) (entries : List (κ × ν)) :
    find? k' (put k value entries) = find? k' entries := by
  cases value with
  | some v => exact find?_insert_of_ne h v entries
  | none => exact find?_erase_of_ne h entries

variable [Trans (· < · : κ → κ → Prop) (· < · : κ → κ → Prop) (· < · : κ → κ → Prop)]
  [Std.Trichotomous (α := κ) (· < ·)]

theorem Sorted.put {entries : List (κ × ν)} (sorted : Sorted entries) (k : κ) (value : Option ν) :
    Sorted (Keyed.put k value entries) := by
  cases value with
  | some v => exact sorted.insert k v
  | none => exact sorted.erase k

namespace Map

/-- Stores a value under a key, or removes what was stored there. -/
def put (map : Map κ ν) (k : κ) (value : Option ν) : Map κ ν :=
  ⟨Keyed.put k value map.entries, map.sorted.put k value⟩

@[simp] theorem find?_put_self (map : Map κ ν) (k : κ) (value : Option ν) :
    (map.put k value).find? k = value :=
  Keyed.find?_put_self k value map.entries

theorem find?_put_of_ne {k k' : κ} (h : k' ≠ k) (map : Map κ ν) (value : Option ν) :
    (map.put k value).find? k' = map.find? k' :=
  Keyed.find?_put_of_ne h value map.entries

variable [Std.Asymm (α := κ) (· < ·)]

theorem insert_of_find? {map : Map κ ν} {k : κ} {v : ν} (h : map.find? k = some v) :
    map.insert k v = map := by
  refine ext_find? fun other => ?_
  by_cases same : other = k
  · rw [same, find?_insert_self, h]
  · exact find?_insert_of_ne same map v

/-- It does not matter in which order two keys are put. -/
theorem put_comm (map : Map κ ν) {k k' : κ} (different : k ≠ k') (value value' : Option ν) :
    (map.put k' value').put k value = (map.put k value).put k' value' := by
  refine ext_find? fun other => ?_
  by_cases first : other = k
  · subst first
    rw [find?_put_self, find?_put_of_ne different, find?_put_self]
  · by_cases second : other = k'
    · subst second
      rw [find?_put_self, find?_put_of_ne first, find?_put_self]
    · rw [find?_put_of_ne first, find?_put_of_ne second, find?_put_of_ne second,
        find?_put_of_ne first]

end Map

end Put

end DocumentClient.Keyed
