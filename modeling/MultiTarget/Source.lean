import MultiTarget.Json

/-!
# `MultiTarget.Source`: trees that records are read from

Descriptors, switches and deployed state are read from JSON and from
YAML. A `Source` is a tree of either format seen through the few
questions a reader of records asks; what counts as a text or a flag is
the format's own decision. `Record.read?` matches the fields of a record
with the parts of a tree:

* fields by name, unknown names left out, two names of one field
  refused;
* or the values alone, in the order of the fields.

Specification 3 and X.6.1 say which attributes there are; that unknown ones
are left out is the custom of both formats.
-/

set_option autoImplicit false

namespace MultiTarget

/-- How a record is written. -/
inductive Layout (σ : Type) where
  /-- Values with the names of their fields. -/
  | named (fields : List (String × σ))
  /-- Values in the order of the fields. -/
  | positional (values : List σ)

/-- Trees that records are read from. -/
class Source (σ : Type) where
  /-- The parts of a tree that may stand for a record. -/
  layout? : σ → Option (Layout σ)
  /-- The items of a list. -/
  items? : σ → Option (List σ)
  /-- The entries of a map with text keys. -/
  entries? : σ → Option (List (String × σ))
  /-- Whether the tree says that there is no value, unless it contradicts
  itself. -/
  isNull? : σ → Option Bool
  /-- The text a tree stands for. -/
  text? : σ → Option String
  /-- The flag a tree stands for. -/
  flag? : σ → Option Bool
  /-- The unsigned 64-bit number a tree stands for. -/
  number? : σ → Option Nat
  /-- The alternative a tree names. -/
  choice? : σ → Option String
  /-- The JSON value of the whole tree. -/
  value? : σ → Option Json

/-- In JSON nothing is converted: only a string is a text and only a
boolean a flag. An alternative is named by a string or by a map with one
empty entry. -/
instance : Source Json where
  layout?
    | .obj entries => some (.named entries)
    | .arr items => some (.positional items)
    | _ => none
  items?
    | .arr items => some items
    | _ => none
  entries?
    | .obj entries => some entries
    | _ => none
  isNull?
    | .null => some true
    | _ => some false
  text? := Json.text?
  flag?
    | .bool flag => some flag
    | _ => none
  number? := Json.unsigned?
  choice?
    | .str name => some name
    | .obj [(name, .null)] => some name
    | _ => none
  value? := some

/-- The names a field may be written with. -/
structure FieldName where
  /-- The name by which the field is known. -/
  name : String
  /-- Other accepted names. -/
  aliases : List String
  deriving DecidableEq, Repr

/-- The values of the fields of a record that are present. -/
abbrev Record (σ : Type) := List (String × σ)

namespace Record

variable {σ α : Type}

/-- Fields with one name each. -/
def plainFields (names : List String) : List FieldName := names.map fun name => ⟨name, []⟩

/-- The name of the field that a written name stands for. -/
def fieldOf? (fields : List FieldName) (written : String) : Option String :=
  (fields.find? fun f => f.name == written || f.aliases.contains written).map (·.name)

/-- Collect the values of known fields. Unknown names are left out unread; a
field written twice, be it under two names, refuses the record. -/
def collect? (fields : List FieldName) : List (String × σ) → Option (Record σ)
  | [] => some []
  | (written, value) :: rest =>
    match fieldOf? fields written with
    | none => collect? fields rest
    | some name =>
      match collect? fields rest with
      | none => none
      | some record => if record.any (·.1 == name) then none else some ((name, value) :: record)

/-- The record of a tree. -/
def read? [Source σ] (fields : List FieldName) (tree : σ) : Option (Record σ) :=
  match Source.layout? tree with
  | none => none
  | some (.named entries) => collect? fields entries
  | some (.positional values) =>
    -- Fields at the end may be missing, but nothing may follow the last one.
    if values.length ≤ fields.length then some ((fields.map (·.name)).zip values) else none

/-- The record of a tree in which values written in the order of the
fields leave none out. -/
def readComplete? [Source σ] (fields : List FieldName) (tree : σ) : Option (Record σ) :=
  match Source.layout? tree with
  | some (.positional values) =>
    if values.length = fields.length then read? fields tree else none
  | _ => read? fields tree

/-- A field that must be present. A null is present, and it is up to `read`
what it makes of it. -/
def required (record : Record σ) (name : String) (read : σ → Option α) : Option α :=
  match Entries.lookup name record with
  | some value => read value
  | none => none

/-- A field with a value for its absence. A null is no absence. -/
def orElse (record : Record σ) (name : String) (read : σ → Option α) (absent : α) : Option α :=
  match Entries.lookup name record with
  | some value => read value
  | none => some absent

/-- A field that may be absent or null. A tree that contradicts itself is
neither null nor a value. -/
def optional [Source σ] (record : Record σ) (name : String) (read : σ → Option α) :
    Option (Option α) :=
  match Entries.lookup name record with
  | some value =>
    match Source.isNull? value with
    | some true => some none
    | some false => (read value).map some
    | none => none
  | none => some none

end Record

namespace Source

variable {σ α : Type} [Source σ]

/-- A list whose items are read one by one. -/
def list? (read : σ → Option α) (tree : σ) : Option (List α) :=
  match items? tree with
  | some items => items.mapM read
  | none => none

/-- A list of texts. -/
def texts? (tree : σ) : Option (List String) := list? text? tree

/-- The value of one entry of a map of JSON values. -/
def entryValue? (entry : String × σ) : Option (String × Json) :=
  (value? entry.2).map fun value => (entry.1, value)

/-- A map of JSON values. -/
def parameters? (tree : σ) : Option Parameters :=
  match entries? tree with
  | some entries => (entries.mapM entryValue?).map OrderedMap.ofList
  | none => none

end Source

end MultiTarget
