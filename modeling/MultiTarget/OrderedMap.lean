/-!
# `MultiTarget.OrderedMap`: finite maps with text keys in ascending order

Parameters, properties, labels, environments and results are all maps
whose answers list the keys in ascending order. An `OrderedMap` keeps
its entries as one list in that order, so two maps with the same
entries are equal as values and every traversal is deterministic.

* `Entries.insert` puts one entry into a list; `Entries.ascending_insert`
  says that the order is kept, `Entries.lookup_insert` what is found
  afterwards.
* `OrderedMap.ext_get?`: a map is determined by its look-ups.

Specification 9 asks that the order of keys is stated and not left to a
container. Here it is a part of the type.
-/

set_option autoImplicit false

namespace MultiTarget

universe u v

/-- The keys of a list of entries strictly ascend. -/
abbrev Ascending {α : Type u} (entries : List (String × α)) : Prop :=
  entries.Pairwise fun a b => a.1 < b.1

namespace Entries

variable {α : Type u} {β : Type v}

/-- The value of the first entry with a key. -/
def lookup (key : String) : List (String × α) → Option α
  | [] => none
  | (k, v) :: rest => if key = k then some v else lookup key rest

/-- Put an entry before the first greater key, replacing an entry with
the same key. -/
def insert (key : String) (value : α) : List (String × α) → List (String × α)
  | [] => [(key, value)]
  | (k, v) :: rest =>
    if key < k then (key, value) :: (k, v) :: rest
    else if key = k then (key, value) :: rest
    else (k, v) :: insert key value rest

/-- Two keys that are neither less nor equal are greater. -/
theorem lt_of_not_lt_of_ne {a b : String} (h : ¬ a < b) (hne : a ≠ b) : b < a := by
  rcases Std.lt_trichotomy a b with hlt | heq | hgt
  · exact absurd hlt h
  · exact absurd heq hne
  · exact hgt

/-- Nothing but the inserted entry is new. -/
theorem mem_insert {key : String} {value : α} {entry : String × α}
    {entries : List (String × α)} (h : entry ∈ insert key value entries) :
    entry = (key, value) ∨ entry ∈ entries := by
  induction entries with
  | nil => simpa [insert] using h
  | cons head rest ih =>
    obtain ⟨k, v⟩ := head
    unfold insert at h
    split at h
    · simpa using h
    · split at h
      · rcases List.mem_cons.1 h with rfl | hr
        · exact .inl rfl
        · exact .inr (List.mem_cons_of_mem _ hr)
      · rcases List.mem_cons.1 h with rfl | hr
        · exact .inr (List.mem_cons_self ..)
        · exact (ih hr).imp_right (List.mem_cons_of_mem _)

/-- Insertion keeps the order. -/
theorem ascending_insert (key : String) (value : α) {entries : List (String × α)}
    (h : Ascending entries) : Ascending (insert key value entries) := by
  induction entries with
  | nil => simp [insert, Ascending]
  | cons head rest ih =>
    obtain ⟨k, v⟩ := head
    obtain ⟨hhead, hrest⟩ := List.pairwise_cons.1 h
    unfold insert
    split
    · rename_i hlt
      refine List.pairwise_cons.2 ⟨fun e he => ?_, h⟩
      rcases List.mem_cons.1 he with rfl | hr
      · exact hlt
      · exact String.lt_trans hlt (hhead e hr)
    · split
      · rename_i heq
        exact List.pairwise_cons.2 ⟨fun e he => heq ▸ hhead e he, hrest⟩
      · rename_i hlt hne
        refine List.pairwise_cons.2 ⟨fun e he => ?_, ih hrest⟩
        -- What follows the head is the new entry or one that was there before.
        rcases mem_insert he with rfl | hr
        · exact lt_of_not_lt_of_ne hlt hne
        · exact hhead e hr

/-- After an insertion the key has the inserted value and every other
key what it had before. -/
theorem lookup_insert (key other : String) (value : α) (entries : List (String × α)) :
    lookup other (insert key value entries) =
      if other = key then some value else lookup other entries := by
  induction entries with
  | nil => by_cases h : other = key <;> simp [insert, lookup, h]
  | cons head rest ih =>
    obtain ⟨k, v⟩ := head
    unfold insert
    split
    · by_cases h : other = key <;> simp [lookup, h]
    · split
      · rename_i heq
        subst heq
        by_cases h : other = key <;> simp [lookup, h]
      · rename_i hlt hne
        by_cases h : other = k
        · have hk : other ≠ key := fun he => hne (he.symm.trans h)
          simp [lookup, h, Ne.symm hne]
        · simp [lookup, h, ih]

/-- A key below every key of the list is not found in it. -/
theorem lookup_eq_none_of_forall_lt {key : String} {entries : List (String × α)}
    (h : ∀ e ∈ entries, key < e.1) : lookup key entries = none := by
  induction entries with
  | nil => rfl
  | cons head rest ih =>
    obtain ⟨k, v⟩ := head
    have hk : key < k := h (k, v) (List.mem_cons_self ..)
    have hne : key ≠ k := fun he => String.lt_irrefl k (he ▸ hk)
    simp [lookup, hne, ih fun e he => h e (List.mem_cons_of_mem _ he)]

/-- Ascending lists with the same look-ups are the same list. -/
theorem eq_of_lookup_eq {xs ys : List (String × α)} (hx : Ascending xs) (hy : Ascending ys)
    (h : ∀ key, lookup key xs = lookup key ys) : xs = ys := by
  induction xs generalizing ys with
  | nil =>
    cases ys with
    | nil => rfl
    | cons y ys => exact absurd (h y.1) (by simp [lookup])
  | cons x xs ih =>
    cases ys with
    | nil => exact absurd (h x.1) (by simp [lookup])
    | cons y ys =>
      obtain ⟨kx, vx⟩ := x
      obtain ⟨ky, vy⟩ := y
      obtain ⟨hxh, hxr⟩ := List.pairwise_cons.1 hx
      obtain ⟨hyh, hyr⟩ := List.pairwise_cons.1 hy
      -- The lesser of two different first keys would be found in one list alone.
      have hkey : kx = ky := by
        rcases Std.lt_trichotomy kx ky with hlt | heq | hgt
        · have hnone : lookup kx ((ky, vy) :: ys) = none :=
            lookup_eq_none_of_forall_lt fun e he => by
              rcases List.mem_cons.1 he with rfl | hr
              · exact hlt
              · exact String.lt_trans hlt (hyh e hr)
          exact absurd (h kx) (by rw [hnone]; simp [lookup])
        · exact heq
        · have hnone : lookup ky ((kx, vx) :: xs) = none :=
            lookup_eq_none_of_forall_lt fun e he => by
              rcases List.mem_cons.1 he with rfl | hr
              · exact hgt
              · exact String.lt_trans hgt (hxh e hr)
          exact absurd (h ky) (by rw [hnone]; simp [lookup])
      subst hkey
      have hval : vx = vy := by simpa [lookup] using h kx
      subst hval
      refine congrArg _ (ih hxr hyr fun key => ?_)
      -- The first key occurs in neither tail, and for any other the heads play no part.
      by_cases hk : key = kx
      · subst hk
        rw [lookup_eq_none_of_forall_lt hxh, lookup_eq_none_of_forall_lt hyh]
      · simpa [lookup, hk] using h key

/-- Put the entries of a list into an ascending list one by one, so the
last of several entries with one key stays. -/
def insertAll (base added : List (String × α)) : List (String × α) :=
  added.foldl (fun entries e => insert e.1 e.2 entries) base

/-- Putting entries in one by one keeps the order, in whatever order they
come. -/
theorem ascending_insertAll {base : List (String × α)} (added : List (String × α))
    (h : Ascending base) : Ascending (insertAll base added) := by
  induction added generalizing base with
  | nil => exact h
  | cons e rest ih => exact ih (ascending_insert e.1 e.2 h)

/-- Changing the values alone keeps the order. -/
theorem ascending_map (f : String → α → β) {entries : List (String × α)}
    (h : Ascending entries) : Ascending (entries.map fun e => (e.1, f e.1 e.2)) :=
  List.pairwise_map.2 (h.imp fun hab => hab)

end Entries

/-- A finite map from text keys, its entries in ascending order. -/
structure OrderedMap (α : Type u) where
  /-- The entries, each key once. -/
  entries : List (String × α)
  /-- The keys strictly ascend. -/
  ascending : Ascending entries

namespace OrderedMap

variable {α : Type u} {β : Type v}

/-- Maps with the same entries are equal. -/
theorem ext_entries {m n : OrderedMap α} (h : m.entries = n.entries) : m = n := by
  cases m; cases n; cases h; rfl

instance [DecidableEq α] : DecidableEq (OrderedMap α) := fun m n =>
  if h : m.entries = n.entries then isTrue (ext_entries h)
  else isFalse fun he => h (congrArg entries he)

instance [Repr α] : Repr (OrderedMap α) := ⟨fun m => reprPrec m.entries⟩

/-- The map without entries. -/
def empty : OrderedMap α := ⟨[], List.Pairwise.nil⟩

instance : EmptyCollection (OrderedMap α) := ⟨empty⟩

instance : Inhabited (OrderedMap α) := ⟨empty⟩

/-- The value of a key. -/
def get? (m : OrderedMap α) (key : String) : Option α := Entries.lookup key m.entries

/-- Whether the key has a value. -/
def contains (m : OrderedMap α) (key : String) : Bool := (m.get? key).isSome

/-- Whether there are no entries. -/
def isEmpty (m : OrderedMap α) : Bool := m.entries.isEmpty

/-- The number of entries. -/
def size (m : OrderedMap α) : Nat := m.entries.length

/-- The keys in ascending order. -/
def keys (m : OrderedMap α) : List String := m.entries.map (·.1)

/-- The values in the order of their keys. -/
def values (m : OrderedMap α) : List α := m.entries.map (·.2)

/-- The map with a key set to a value. -/
def insert (m : OrderedMap α) (key : String) (value : α) : OrderedMap α :=
  ⟨Entries.insert key value m.entries, Entries.ascending_insert key value m.ascending⟩

/-- The map with a key set to a value unless it already has one, whatever that
is. -/
def insertNew (m : OrderedMap α) (key : String) (value : α) : OrderedMap α :=
  if m.contains key then m else m.insert key value

/-- The map with the entries of a list put in one by one. -/
def insertAll (m : OrderedMap α) (entries : List (String × α)) : OrderedMap α :=
  ⟨Entries.insertAll m.entries entries, Entries.ascending_insertAll entries m.ascending⟩

/-- The map of a list of entries; the last of several values of one key
stays. -/
def ofList (entries : List (String × α)) : OrderedMap α := empty.insertAll entries

/-- The first map overlaid with the second, whose values win. -/
def overlay (m n : OrderedMap α) : OrderedMap α := m.insertAll n.entries

/-- The entries whose key and value pass a test. -/
def filter (p : String → α → Bool) (m : OrderedMap α) : OrderedMap α :=
  ⟨m.entries.filter fun e => p e.1 e.2, m.ascending.filter _⟩

/-- The map with each value replaced. -/
def map (f : α → β) (m : OrderedMap α) : OrderedMap β :=
  ⟨m.entries.map fun e => (e.1, f e.2), Entries.ascending_map (fun _ => f) m.ascending⟩

/-- The value of a key after an insertion. -/
theorem get?_insert (m : OrderedMap α) (key other : String) (value : α) :
    (m.insert key value).get? other = if other = key then some value else m.get? other :=
  Entries.lookup_insert key other value m.entries

@[simp] theorem get?_empty (key : String) : (empty : OrderedMap α).get? key = none := rfl

/-- A default is seen exactly where there was no value. -/
theorem get?_insertNew (m : OrderedMap α) (key other : String) (value : α) :
    (m.insertNew key value).get? other =
      if other = key then some ((m.get? key).getD value) else m.get? other := by
  unfold insertNew contains
  by_cases h : other = key
  · subst h
    cases hm : m.get? other <;> simp [hm, get?_insert]
  · cases hm : m.get? key <;> simp [h, get?_insert]

/-- A map is determined by its look-ups. -/
theorem ext_get? {m n : OrderedMap α} (h : ∀ key, m.get? key = n.get? key) : m = n :=
  ext_entries (Entries.eq_of_lookup_eq m.ascending n.ascending h)

end OrderedMap

end MultiTarget
