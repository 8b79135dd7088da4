import MultiTarget.Json

/-!
# `MultiTarget.Json.Entry`: the entries of a record

A record is written as a map with its fields in order of declaration. A
field is always written, or left out while it is absent or empty.
-/

set_option autoImplicit false

namespace MultiTarget.Json

/-- A field that is always written. -/
def entry (name : String) (value : Json) : List (String × Json) := [(name, value)]

/-- A field that is left out if absent. -/
def optionalEntry (name : String) : Option Json → List (String × Json)
  | some value => [(name, value)]
  | none => []

/-- A text that is left out if absent. -/
def textEntry (name : String) (text : Option String) : List (String × Json) :=
  optionalEntry name (text.map .str)

/-- A number that is left out if absent. -/
def numberEntry (name : String) (n : Option Int) : List (String × Json) :=
  optionalEntry name (n.map .int)

/-- A map that is left out if empty. -/
def mapEntry (name : String) (m : Parameters) : List (String × Json) :=
  if m.isEmpty then [] else [(name, .ofMap m)]

/-- A list that is left out if empty. -/
def listEntry (name : String) (items : List Json) : List (String × Json) :=
  if items.isEmpty then [] else [(name, .arr items)]

end MultiTarget.Json
