import MultiTarget.Json.Entry

/-!
# `MultiTarget.Proofs.Support.Entries`: what is found in the entries of a record

A record is put together from the entries of its fields, some of which are
left out while they are absent or empty. What is found under a key is told
field by field: an entry has a value for its own name only, and of two lists
the first one that has a key decides (`lookup_append`). The names of the
fields, in order, tell which keys there can be (`Record.Within`).

These lemmas belong to no single part of a model, so this module sits
outside the modules for those parts.
-/

set_option autoImplicit false

namespace MultiTarget

namespace Json

/-- What is written of a map: nothing if it is empty, for a reader takes an
absent field for an empty map. -/
def mapped? (m : Parameters) : Option Json := if m.isEmpty then none else some (.ofMap m)

/-- What is written of a list: nothing if it is empty, for a reader takes an
absent field for an empty list. -/
def listed? (items : List Json) : Option Json := if items.isEmpty then none else some (.arr items)

end Json

open Json (mapped? listed?)

namespace Entries

/-- A key is looked up in the first of two lists that has it. A record is
written as such a sequence, one list for each field, so with the lemmas below a
look-up in it computes. -/
@[simp] theorem lookup_append (key : String) (xs ys : List (String × Json)) :
    lookup key (xs ++ ys) = (lookup key xs).or (lookup key ys) := by
  induction xs with
  | nil => rfl
  | cons e rest ih =>
      obtain ⟨k, value⟩ := e
      by_cases h : key = k <;> simp [lookup, h, ih]

/-- An entry that is always written has a value for its own name only. -/
@[simp] theorem lookup_entry (key name : String) (value : Json) :
    lookup key (Json.entry name value) = if key = name then some value else none := rfl

/-- An optional text has a value for its own name only, and is absent there if
there is no text. -/
@[simp] theorem lookup_textEntry (key name : String) (text : Option String) :
    lookup key (Json.textEntry name text)
      = if key = name then text.map Json.str else none := by
  cases text with
  | none => simp [Json.textEntry, Json.optionalEntry, lookup]
  | some text => rfl

/-- A map that is left out if empty has a value for its own name only, which is
told by `mapped?` and not by a case distinction. -/
@[simp] theorem lookup_mapEntry (key name : String) (m : Parameters) :
    lookup key (Json.mapEntry name m) = if key = name then mapped? m else none := by
  unfold Json.mapEntry mapped?
  split <;> simp [lookup]

/-- A list that is left out if empty has a value for its own name only, which
is told by `listed?`. -/
@[simp] theorem lookup_listEntry (key name : String) (items : List Json) :
    lookup key (Json.listEntry name items) = if key = name then listed? items else none := by
  unfold Json.listEntry listed?
  split <;> simp [lookup]

end Entries

namespace Record

/-- Entries under some names, in the order of these. A field that is left out
is no entry, so the keys are a sublist of the names and need not be all of
them. -/
def Within (names : List String) (entries : List (String × Json)) : Prop :=
  (entries.map (·.1)).Sublist names

/-- Two lists of entries put together keep to the names put together, so a
whole record is checked field by field. -/
theorem Within.append {names others : List String} {xs ys : List (String × Json)}
    (hx : Within names xs) (hy : Within others ys) : Within (names ++ others) (xs ++ ys) := by
  unfold Within
  rw [List.map_append]
  exact List.Sublist.append hx hy

/-- An entry that is always written keeps to its own name. -/
theorem within_entry (name : String) (value : Json) : Within [name] (Json.entry name value) :=
  List.Sublist.refl _

/-- An optional text keeps to its own name, whether it is written or left
out. -/
theorem within_textEntry (name : String) (text : Option String) :
    Within [name] (Json.textEntry name text) := by
  cases text with
  | none => exact List.nil_sublist _
  | some text => exact List.Sublist.refl _

/-- A map keeps to its own name, whether it is written or left out because it
is empty. -/
theorem within_mapEntry (name : String) (m : Parameters) :
    Within [name] (Json.mapEntry name m) := by
  unfold Json.mapEntry
  split
  · exact List.nil_sublist _
  · exact List.Sublist.refl _

/-- A list keeps to its own name, whether it is written or left out because it
is empty. -/
theorem within_listEntry (name : String) (items : List Json) :
    Within [name] (Json.listEntry name items) := by
  unfold Json.listEntry
  split
  · exact List.nil_sublist _
  · exact List.Sublist.refl _

/-- Under ascending names entries ascend. This is what look-ups in the map that
is made of them ask for, and for literal names it is decided by computation. -/
theorem Within.ascending {names : List String} {entries : List (String × Json)}
    (h : Within names entries) (hnames : names.Pairwise (· < ·)) : Ascending entries :=
  List.pairwise_map.1 (hnames.sublist h)

end Record

end MultiTarget
