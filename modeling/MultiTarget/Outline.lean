import MultiTarget.Source

/-!
# `MultiTarget.Outline`: the parts of a tree that a reader looks at

A reader of records leaves the values of unknown fields alone, so what
stands there matters to nothing, not even to the limits on what is read.
An outline says which parts of a tree a reader looks at.
-/

set_option autoImplicit false

namespace MultiTarget

/-- Which parts of a tree a reader looks at. -/
inductive Outline where
  /-- All of it. -/
  | whole
  /-- The items of a list. -/
  | list (items : Outline)
  /-- The known fields of a record: some by outlines of their own, the
  others wholly. -/
  | record (fields : List FieldName) (parts : List (String × Outline))

namespace Outline

/-- What is looked at of the items of a list. -/
def item? : Outline → Option Outline
  | whole => some whole
  | list items => some items
  | record .. => none

/-- What is looked at of the value that stands with a written name. -/
def field? (written : String) : Outline → Option Outline
  | whole => some whole
  | list _ => none
  | record fields parts =>
    (Record.fieldOf? fields written).map fun name => (Entries.lookup name parts).getD whole

end Outline

end MultiTarget
