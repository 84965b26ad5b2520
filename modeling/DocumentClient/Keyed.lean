/-!
# DocumentClient.Keyed

**Finite maps in strictly increasing order of their keys.** The fields of a JSON object are in the
order of their names, and the documents of a container in the order of partition and id, so one set
of functions serves both. The view is `find?`: the small lemmas say what each operation does to it.

* The functions are on lists of pairs, for the fields of an object are such a list: a type that
  occurs in itself cannot be stored in a structure with a proof about it.
* `Map` is a list with the proof that it is in order. Every operation on a map builds that proof
  along, so nothing out of order can be stored, and nowhere is the order assumed. Keys need a strict
  linear order for that, of which each operation asks what it needs.
-/

namespace DocumentClient.Keyed

variable {κ ν : Type} [DecidableEq κ]

/-- The value stored under `k`, if any. -/
def find? (k : κ) : List (κ × ν) → Option ν
  | [] => none
  | (k', v) :: rest => if k = k' then some v else find? k rest

/-- Stores `v` under `k`, replacing what was there and keeping the keys in order. -/
def insert [LT κ] [DecidableLT κ] (k : κ) (v : ν) : List (κ × ν) → List (κ × ν)
  | [] => [(k, v)]
  | (k', v') :: rest =>
    if k = k' then (k, v) :: rest
    else if k < k' then (k, v) :: (k', v') :: rest
    else (k', v') :: insert k v rest

/-- Removes `k` and its value, if present. -/
def erase (k : κ) (entries : List (κ × ν)) : List (κ × ν) :=
  entries.filter fun entry => entry.1 ≠ k

/-- Is something stored under `k`? -/
def contains (k : κ) (entries : List (κ × ν)) : Bool :=
  (find? k entries).isSome

/-- Builds a map from pairs in any order; of two pairs with one key the later wins. -/
def ofList [LT κ] [DecidableLT κ] (entries : List (κ × ν)) : List (κ × ν) :=
  entries.foldl (fun map entry => insert entry.1 entry.2 map) []

/-- The keys stand in strictly increasing order, so each occurs once. -/
def Sorted [LT κ] (entries : List (κ × ν)) : Prop :=
  entries.Pairwise fun a b => a.1 < b.1

instance [LT κ] [DecidableLT κ] (entries : List (κ × ν)) : Decidable (Sorted entries) :=
  inferInstanceAs (Decidable (entries.Pairwise fun a b => a.1 < b.1))

/-! ## What is found -/

@[simp] theorem find?_nil (k : κ) : find? k ([] : List (κ × ν)) = none := rfl

/-- What is found is in the map. -/
theorem mem_of_find? {k : κ} {v : ν} {entries : List (κ × ν)} (h : find? k entries = some v) :
    (k, v) ∈ entries := by
  induction entries with
  | nil => simp at h
  | cons entry rest ih =>
      obtain ⟨k', v'⟩ := entry
      simp only [find?] at h
      split at h
      · rename_i hk
        rw [hk, Option.some.inj h]
        exact List.mem_cons_self
      · exact List.mem_cons_of_mem _ (ih h)

/-- What was stored is found again. -/
@[simp] theorem find?_insert_self [LT κ] [DecidableLT κ] (k : κ) (v : ν)
    (entries : List (κ × ν)) : find? k (insert k v entries) = some v := by
  induction entries with
  | nil => simp [insert, find?]
  | cons entry rest ih =>
      obtain ⟨k', v'⟩ := entry
      simp only [insert]
      split
      · simp [find?]
      · split
        · simp [find?]
        · simp only [find?, if_neg ‹k ≠ k'›]
          exact ih

/-- Storing under one key leaves every other key alone. -/
theorem find?_insert_of_ne [LT κ] [DecidableLT κ] {k k' : κ} (h : k' ≠ k) (v : ν)
    (entries : List (κ × ν)) : find? k' (insert k v entries) = find? k' entries := by
  induction entries with
  | nil => simp [insert, find?, h]
  | cons entry rest ih =>
      obtain ⟨k₀, v₀⟩ := entry
      simp only [insert]
      split
      · rename_i hk
        subst hk
        simp [find?, h]
      · split
        · simp [find?, h]
        · simp only [find?, ih]

/-- What was removed is gone. -/
@[simp] theorem find?_erase_self (k : κ) (entries : List (κ × ν)) :
    find? k (erase k entries) = none := by
  induction entries with
  | nil => rfl
  | cons entry rest ih =>
      obtain ⟨k', v'⟩ := entry
      by_cases hk : k' = k
      · simpa [erase, hk] using ih
      · have hk' : ¬ k = k' := fun h => hk h.symm
        simp only [erase, List.filter_cons, decide_not, hk, decide_false, Bool.not_false,
          if_true, find?, hk', if_false]
        simpa [erase] using ih

/-- Removing one key leaves every other key alone. -/
theorem find?_erase_of_ne {k k' : κ} (h : k' ≠ k) (entries : List (κ × ν)) :
    find? k' (erase k entries) = find? k' entries := by
  induction entries with
  | nil => rfl
  | cons entry rest ih =>
      obtain ⟨k₀, v₀⟩ := entry
      by_cases hk : k₀ = k
      · subst hk
        simp only [erase, List.filter_cons, ne_eq, not_true_eq_false, decide_false,
          find?, h, if_false]
        simpa [erase] using ih
      · simp only [erase, List.filter_cons, ne_eq, hk, not_false_eq_true, decide_true,
          if_true, find?]
        split
        · rfl
        · simpa [erase] using ih

/-! ## Order -/

section Order

variable [LT κ]

omit [DecidableEq κ] in
theorem sorted_nil : Sorted ([] : List (κ × ν)) := List.Pairwise.nil

theorem Sorted.erase {entries : List (κ × ν)} (h : Sorted entries) (k : κ) :
    Sorted (Keyed.erase k entries) :=
  List.Pairwise.filter _ h

variable [DecidableLT κ]

/-- What is in a map after an insertion was in it before, or was inserted. -/
theorem mem_insert {k : κ} {v : ν} {entry : κ × ν} {entries : List (κ × ν)}
    (h : entry ∈ insert k v entries) : entry = (k, v) ∨ entry ∈ entries := by
  induction entries with
  | nil => simpa [insert] using h
  | cons first rest ih =>
      obtain ⟨k', v'⟩ := first
      unfold insert at h
      split at h
      · rcases List.mem_cons.mp h with h | h
        · exact .inl h
        · exact .inr (List.mem_cons_of_mem _ h)
      · split at h
        · exact List.mem_cons.mp h
        · rcases List.mem_cons.mp h with h | h
          · exact .inr (h ▸ List.mem_cons_self)
          · rcases ih h with h | h
            · exact .inl h
            · exact .inr (List.mem_cons_of_mem _ h)

variable [Trans (· < · : κ → κ → Prop) (· < · : κ → κ → Prop) (· < · : κ → κ → Prop)]
  [Std.Trichotomous (α := κ) (· < ·)]

/-- Storing keeps the keys in order. -/
theorem Sorted.insert {entries : List (κ × ν)} (h : Sorted entries) (k : κ) (v : ν) :
    Sorted (Keyed.insert k v entries) := by
  induction entries with
  | nil => exact List.pairwise_singleton _ _
  | cons first rest ih =>
      obtain ⟨k', v'⟩ := first
      obtain ⟨below, sorted⟩ := List.pairwise_cons.mp h
      unfold Keyed.insert
      split
      · rename_i same
        subst same
        exact List.pairwise_cons.mpr ⟨below, sorted⟩
      · rename_i different
        split
        · rename_i before
          refine List.pairwise_cons.mpr ⟨fun entry mem => ?_, h⟩
          rcases List.mem_cons.mp mem with rfl | mem
          · exact before
          · exact Trans.trans before (below entry mem)
        · rename_i notBefore
          have after : k' < k := Decidable.byContradiction fun notAfter =>
            different (Std.Trichotomous.trichotomous k k' notBefore notAfter)
          refine List.pairwise_cons.mpr ⟨fun entry mem => ?_, ih sorted⟩
          rcases mem_insert mem with rfl | mem
          · exact after
          · exact below entry mem

end Order

/-! ## Maps -/

/-- A map: pairs in strictly increasing order of key. -/
structure Map (κ ν : Type) [LT κ] where
  /-- The pairs. -/
  entries : List (κ × ν) := []
  /-- They are in order. -/
  sorted : Sorted entries := by decide

namespace Map

variable [LT κ]

instance : EmptyCollection (Map κ ν) := ⟨{ sorted := sorted_nil }⟩

instance : Singleton (κ × ν) (Map κ ν) :=
  ⟨fun entry => ⟨[entry], List.pairwise_singleton _ entry⟩⟩

instance : Inhabited (Map κ ν) := ⟨∅⟩

instance [Repr κ] [Repr ν] : Repr (Map κ ν) := ⟨fun map => reprPrec map.entries⟩

/-- A map is used where pairs are asked for. -/
instance : CoeOut (Map κ ν) (List (κ × ν)) := ⟨entries⟩

/-- A pair is in a map if the value is stored under the key. -/
instance : Membership (κ × ν) (Map κ ν) := ⟨fun map entry => entry ∈ map.entries⟩

/-- How many keys something is stored under. -/
def length (map : Map κ ν) : Nat := map.entries.length

/-- The values, in the order of their keys. -/
def values (map : Map κ ν) : List ν := map.entries.map Prod.snd

/-- The value stored under a key, if any. -/
def find? (map : Map κ ν) (k : κ) : Option ν := Keyed.find? k map.entries

/-- Is something stored under a key? -/
def contains (map : Map κ ν) (k : κ) : Bool := (map.find? k).isSome

/-- Removes a key and its value, if present. -/
def erase (map : Map κ ν) (k : κ) : Map κ ν := ⟨Keyed.erase k map.entries, map.sorted.erase k⟩

/-- Keeps what is stored under the keys of a property. -/
def filterKeys (map : Map κ ν) (p : κ → Bool) : Map κ ν :=
  ⟨map.entries.filter fun entry => p entry.1, map.sorted.filter _⟩

omit [DecidableEq κ] in
theorem not_mem_empty (entry : κ × ν) : entry ∉ (∅ : Map κ ν) := List.not_mem_nil

theorem mem_of_mem_erase {map : Map κ ν} {k : κ} {entry : κ × ν} (h : entry ∈ map.erase k) :
    entry ∈ map :=
  (List.mem_filter.mp h).1

/-- What was removed is gone. -/
@[simp] theorem find?_erase_self (map : Map κ ν) (k : κ) : (map.erase k).find? k = none :=
  Keyed.find?_erase_self k map.entries

/-- Removing one key leaves every other key alone. -/
theorem find?_erase_of_ne {k k' : κ} (h : k' ≠ k) (map : Map κ ν) :
    (map.erase k).find? k' = map.find? k' :=
  Keyed.find?_erase_of_ne h map.entries

variable [DecidableLT κ]
  [Trans (· < · : κ → κ → Prop) (· < · : κ → κ → Prop) (· < · : κ → κ → Prop)]
  [Std.Trichotomous (α := κ) (· < ·)]

/-- Stores a value under a key, replacing what was there. -/
def insert (map : Map κ ν) (k : κ) (v : ν) : Map κ ν :=
  ⟨Keyed.insert k v map.entries, map.sorted.insert k v⟩

/-- What is in a map after an insertion was in it before, or was inserted. -/
theorem mem_of_mem_insert {map : Map κ ν} {k : κ} {v : ν} {entry : κ × ν}
    (h : entry ∈ map.insert k v) : entry = (k, v) ∨ entry ∈ map :=
  mem_insert h

/-- What was stored is found again. -/
@[simp] theorem find?_insert_self (map : Map κ ν) (k : κ) (v : ν) :
    (map.insert k v).find? k = some v :=
  Keyed.find?_insert_self k v map.entries

/-- Storing under one key leaves every other key alone. -/
theorem find?_insert_of_ne {k k' : κ} (h : k' ≠ k) (map : Map κ ν) (v : ν) :
    (map.insert k v).find? k' = map.find? k' :=
  Keyed.find?_insert_of_ne h v map.entries

end Map

/-! ## Texts as keys -/

instance transText : Trans (· < · : String → String → Prop) (· < · : String → String → Prop)
    (· < · : String → String → Prop) :=
  ⟨String.lt_trans⟩

instance trichotomousText : Std.Trichotomous (α := String) (· < ·) :=
  ⟨fun _ _ notBefore notAfter =>
    String.le_antisymm (String.not_lt.mp notAfter) (String.not_lt.mp notBefore)⟩

end DocumentClient.Keyed
