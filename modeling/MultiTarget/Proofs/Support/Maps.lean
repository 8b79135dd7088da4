import Mathlib.Data.List.Nodup
import MultiTarget.OrderedMap

/-!
# `MultiTarget.Proofs.Support.Maps`: maps made of lists of entries

What is found in a map after entries have been put in. Of entries with one
key the last wins, so a list tells what is found if no key stands in it
twice: because it is in ascending order (`get?_insertAll_of_ascending`), as
the entries of a map are (`get?_overlay`), or because its keys are distinct
(`get?_insertAll_eq_some_iff`, `get?_ofList_eq_some_iff`). For any list, the
keys of a map are those that were put in (`exists_mem_of_mem_keys_ofList`),
and they ascend (`pairwise_keys`).

These lemmas belong to no single part of a model, so this module sits
outside the modules for those parts.
-/

set_option autoImplicit false

namespace MultiTarget

namespace Entries

variable {α : Type}

/-- What is found stands in the list. The other direction fails for lists in
which a key stands twice, since a look-up ends at the first entry. -/
theorem mem_of_lookup_eq_some {entries : List (String × α)} {key : String} {value : α}
    (h : lookup key entries = some value) : (key, value) ∈ entries := by
  induction entries with
  | nil => cases h
  | cons entry rest ih =>
      obtain ⟨k, v⟩ := entry
      by_cases hkey : key = k
      · subst hkey
        rw [lookup, if_pos rfl] at h
        cases h
        exact List.mem_cons_self
      · rw [lookup, if_neg hkey] at h
        exact List.mem_cons_of_mem _ (ih h)

/-- Something is found exactly under the keys of the list, whether or not they
are distinct. -/
theorem isSome_lookup_iff {entries : List (String × α)} {key : String} :
    (lookup key entries).isSome = true ↔ key ∈ entries.map (·.1) := by
  induction entries with
  | nil => simp [lookup]
  | cons entry rest ih =>
      obtain ⟨k, v⟩ := entry
      by_cases hkey : key = k
      · simp [lookup, hkey]
      · rw [lookup, if_neg hkey, ih, List.map_cons, List.mem_cons]
        simp [hkey]

end Entries

namespace OrderedMap

variable {α β : Type}

/-! ### Keys -/

/-- The keys of a map strictly ascend, so they are distinct and a list of them
is determined by its members. -/
theorem pairwise_keys (m : OrderedMap α) : m.keys.Pairwise (· < ·) :=
  List.pairwise_map.2 m.ascending

/-- A map contains its keys: the test that readers make and membership in the
list of keys are the same. -/
theorem mem_keys_iff {m : OrderedMap α} {key : String} :
    key ∈ m.keys ↔ m.contains key = true :=
  Entries.isSome_lookup_iff.symm

/-! ### Putting entries in -/

/-- An entry is put in before all others that follow it in the list, which is
the step of every induction on entries. -/
theorem insertAll_cons (m : OrderedMap α) (key : String) (value : α)
    (rest : List (String × α)) :
    m.insertAll ((key, value) :: rest) = (m.insert key value).insertAll rest := rfl

/-- The entries of two lists are put in one list after the other, so a map may
be described part by part. -/
theorem insertAll_append (m : OrderedMap α) (xs ys : List (String × α)) :
    m.insertAll (xs ++ ys) = (m.insertAll xs).insertAll ys :=
  ext_entries List.foldl_append

/-- Entries in ascending order win over what was there. No key stands twice
among them, so which of two entries with one key wins is no question here. -/
theorem get?_insertAll_of_ascending (m : OrderedMap α) {added : List (String × α)}
    (h : Ascending added) (key : String) :
    (m.insertAll added).get? key = (Entries.lookup key added).or (m.get? key) := by
  induction added generalizing m with
  | nil => rfl
  | cons entry rest ih =>
      obtain ⟨k, value⟩ := entry
      obtain ⟨hhead, hrest⟩ := List.pairwise_cons.1 h
      rw [insertAll_cons, ih _ hrest, get?_insert]
      by_cases hkey : key = k
      · -- The key is below all that follow, so none of them is its own.
        subst hkey
        have hnone : Entries.lookup key rest = none :=
          Entries.lookup_eq_none_of_forall_lt hhead
        simp [Entries.lookup, hnone]
      · simp [Entries.lookup, hkey]

/-- A key has its value in the upper one of two maps, else that in the lower
one. The entries of a map ascend, so no condition is left. -/
theorem get?_overlay (m n : OrderedMap α) (key : String) :
    (m.overlay n).get? key = (n.get? key).or (m.get? key) :=
  get?_insertAll_of_ascending m n.ascending key

/-- Entries in ascending order are found as they stand in their list. Records
are written with ascending names, and then read by key. -/
theorem get?_ofList_of_ascending {added : List (String × α)} (h : Ascending added)
    (key : String) : (ofList added).get? key = Entries.lookup key added :=
  (get?_insertAll_of_ascending empty h key).trans (by rw [get?_empty, Option.or_none])

/-- The map of the entries of a map is this map, so a map that is written and
read again is the one it was. -/
theorem ofList_entries (m : OrderedMap α) : ofList m.entries = m :=
  ext_get? (get?_ofList_of_ascending m.ascending)

/-- A key that is there stays, whatever is put in; its value need not. This is
all that is needed of entries that are written over an environment. -/
theorem contains_insertAll {m : OrderedMap α} {key : String} (h : m.contains key = true)
    (added : List (String × α)) : (m.insertAll added).contains key = true := by
  induction added generalizing m with
  | nil => exact h
  | cons entry rest ih =>
      obtain ⟨k, value⟩ := entry
      rw [insertAll_cons]
      -- One entry is put in: its own key is there then, and any other key is as it was.
      refine ih ?_
      unfold contains at h ⊢
      rw [get?_insert]
      by_cases hkey : key = k <;> simp [hkey, h]

/-! ### Keys of a list -/

/-- A key of a map after entries were put in was there before or is the key of
an entry. For any list, repetitions included. -/
theorem exists_mem_of_mem_keys_insertAll {m : OrderedMap α} {entries : List (String × α)}
    {key : String} (h : key ∈ (m.insertAll entries).keys) :
    key ∈ m.keys ∨ ∃ value, (key, value) ∈ entries := by
  induction entries generalizing m with
  | nil => exact .inl h
  | cons e rest ih =>
      obtain ⟨k, v⟩ := e
      -- The induction is on the entries, for all maps, since the first entry is in the map of the
      -- rest.
      rcases ih (m := m.insert k v) h with hkey | ⟨value, hmem⟩
      · obtain ⟨entry, hentry, rfl⟩ := List.mem_map.1 hkey
        rcases Entries.mem_insert hentry with rfl | hold
        · exact .inr ⟨v, List.mem_cons_self⟩
        · exact .inl (List.mem_map.2 ⟨entry, hold, rfl⟩)
      · exact .inr ⟨value, List.mem_cons_of_mem _ hmem⟩

/-- The keys of the map of a list are keys of its entries. It does not say with
which value, since an earlier entry may be hidden by a later one. -/
theorem exists_mem_of_mem_keys_ofList {entries : List (String × α)} {key : String}
    (h : key ∈ (ofList entries).keys) : ∃ value, (key, value) ∈ entries :=
  (exists_mem_of_mem_keys_insertAll h).resolve_left (by simp [keys, empty])

variable {m : OrderedMap α} {entries : List (String × α)} {key : String} {value : α}

/-- Entries with distinct keys are all found, and hide what was there. Without
the condition an entry may be hidden by a later one, and the statement
fails. -/
theorem get?_insertAll_eq_some_iff (hkeys : (entries.map (·.1)).Nodup) :
    (m.insertAll entries).get? key = some value ↔
      (key, value) ∈ entries ∨ key ∉ entries.map (·.1) ∧ m.get? key = some value := by
  induction entries generalizing m with
  | nil => simp [insertAll, Entries.insertAll, get?]
  | cons entry rest ih =>
      obtain ⟨k, v⟩ := entry
      obtain ⟨hk, hrest⟩ := List.nodup_cons.1 hkeys
      rw [insertAll_cons, ih hrest, get?_insert]
      by_cases hkey : key = k
      · -- No later entry has the key of the first one.
        subst hkey
        have hnone : (key, value) ∉ rest := fun hmem => hk (List.mem_map.2 ⟨_, hmem, rfl⟩)
        have hlater : key ∉ rest.map (·.1) := hk
        rw [if_pos rfl, List.mem_cons, List.map_cons, List.mem_cons]
        simp [hnone, hlater, eq_comm]
      · rw [if_neg hkey, List.mem_cons, List.map_cons, List.mem_cons]
        simp [hkey]

/-- The map of entries with distinct keys finds exactly these, so that a
statement about the map is one about the list. -/
theorem get?_ofList_eq_some_iff (hkeys : (entries.map (·.1)).Nodup) :
    (ofList entries).get? key = some value ↔ (key, value) ∈ entries := by
  unfold ofList
  rw [get?_insertAll_eq_some_iff hkeys]
  simp

/-- The keys of a map of entries with distinct keys are theirs. Only the order
may be another, as the map sorts them. -/
theorem mem_keys_ofList_iff (hkeys : (entries.map (·.1)).Nodup) :
    key ∈ (ofList entries).keys ↔ key ∈ entries.map (·.1) := by
  constructor
  · intro h
    obtain ⟨value, hmem⟩ := exists_mem_of_mem_keys_ofList h
    exact List.mem_map_of_mem hmem
  · intro h
    obtain ⟨⟨key, value⟩, hmem, rfl⟩ := List.mem_map.1 h
    have hfound := (get?_ofList_eq_some_iff hkeys).2 hmem
    exact List.mem_map_of_mem (Entries.mem_of_lookup_eq_some hfound)

/-- What is found under a key is a value of the map, and so a member of the
list that is handed on without keys. -/
theorem mem_values_of_get? (h : m.get? key = some value) : value ∈ m.values :=
  List.mem_map_of_mem (Entries.mem_of_lookup_eq_some h)

/-- A map is empty if nothing is found in it. Maps are compared by look-ups
throughout, so emptiness is told by them as well. -/
theorem isEmpty_iff : m.isEmpty = true ↔ ∀ key, m.get? key = none := by
  constructor
  · intro h key
    rw [get?, List.isEmpty_iff.1 h]
    rfl
  · intro h
    rw [show m = ∅ from ext_get? h]
    rfl

/-- Only the empty map is empty, since a map is determined by what is found in
it. -/
theorem isEmpty_iff_eq_empty : m.isEmpty = true ↔ m = ∅ := by
  rw [isEmpty_iff]
  constructor
  · intro h
    exact ext_get? h
  · rintro rfl key
    rfl

/-! ### Other maps of a map -/

/-- Replacing values changes no key: the value found is the new one of what was
found before. -/
theorem get?_map (f : α → β) (m : OrderedMap α) (key : String) :
    (m.map f).get? key = (m.get? key).map f := by
  show Entries.lookup key (m.entries.map fun e => (e.1, f e.2))
    = (Entries.lookup key m.entries).map f
  induction m.entries with
  | nil => rfl
  | cons entry rest ih =>
      obtain ⟨k, value⟩ := entry
      by_cases hkey : key = k <;> simp [Entries.lookup, hkey, ih]

/-- The keys that pass a test keep their values, and the others are gone. The
test is on the key alone, so it can be made before the look-up. -/
theorem get?_filter (test : String → Bool) (m : OrderedMap α) (key : String) :
    (m.filter fun k _ => test k).get? key = if test key then m.get? key else none := by
  show Entries.lookup key (m.entries.filter fun e => test e.1)
    = if test key then Entries.lookup key m.entries else none
  induction m.entries with
  | nil => simp [Entries.lookup]
  | cons entry rest ih =>
      obtain ⟨k, value⟩ := entry
      rw [List.filter_cons]
      by_cases hkey : key = k
      · subst hkey
        by_cases htest : test key = true <;> simp [Entries.lookup, htest, ih]
      · by_cases htest : test k = true <;> simp [Entries.lookup, hkey, htest, ih]

/-- The keys that pass a test are those keys of the map, in the order that they
had. -/
theorem keys_filter (test : String → Bool) (m : OrderedMap α) :
    (m.filter fun k _ => test k).keys = m.keys.filter test := by
  unfold keys
  rw [List.filter_map]
  rfl

/-- A map without some keys. Statements that two descriptors differ in some
parameters only are equations between maps without these. -/
def without (m : OrderedMap α) (names : List String) : OrderedMap α :=
  m.filter fun key _ => !names.contains key

/-- All other keys keep their values, and under those that are taken out
nothing is found. -/
theorem get?_without (m : OrderedMap α) (names : List String) (key : String) :
    (m.without names).get? key = if key ∈ names then none else m.get? key := by
  unfold without
  rw [get?_filter fun k => !names.contains k]
  by_cases hkey : key ∈ names <;> simp [hkey]

end OrderedMap

end MultiTarget
