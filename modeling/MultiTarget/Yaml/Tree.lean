import MultiTarget.Outline
import MultiTarget.Yaml.Node
import MultiTarget.Yaml.Scalar

/-!
# `MultiTarget.Yaml.Tree`: documents as sources of records

`Tree.ofText?` reads the document of a text and puts copies of the
anchored nodes in the place of their aliases, where a reader looks at
them. Collections nested deeper than 128 levels, and aliases beyond a
hundred for each node event, are not read; so an alias inside its own
anchor, whose copies never end, is no harm where nobody looks.

As a source of records a tree takes a scalar by its written text where a
text is asked for, and an empty place for an empty list or map.

Settings, descriptors and deployed state are read through it (specification
X.4, X.6.1); the grammar and the limits are those of a YAML reader.
-/

set_option autoImplicit false

namespace MultiTarget.Yaml

/-- A document without aliases. -/
inductive Tree where
  | scalar (tag : Option Tag) (text : String) (style : ScalarStyle)
  | sequence (tag : Option Tag) (items : List Tree)
  | mapping (tag : Option Tag) (entries : List (Tree × Tree))
  /-- Beyond the limits, or where nobody looks. -/
  | unread
  deriving Repr, Inhabited

/-- The text of a scalar. -/
def Tree.text? : Tree → Option String
  | .scalar _ text _ => some text
  | _ => none

namespace Node

mutual

/-- The number of node events: one for a scalar or an alias, two for a
collection. -/
def events : Node → Nat
  | .scalar .. => 1
  | .alias _ => 1
  | .anchored _ node => events node
  | .sequence _ items => 2 + eventsOfItems items
  | .mapping _ entries => 2 + eventsOfEntries entries

/-- The events of the items of a sequence. -/
def eventsOfItems : List Node → Nat
  | [] => 0
  | item :: rest => events item + eventsOfItems rest

/-- The events of the entries of a mapping. -/
def eventsOfEntries : List (Node × Node) → Nat
  | [] => 0
  | (key, value) :: rest => events key + events value + eventsOfEntries rest

end

mutual

/-- The anchored nodes with their slots, in the order of their starts. -/
def anchors : Node → List (Nat × Node)
  | .scalar .. => []
  | .alias _ => []
  | .anchored slot node => (slot, node) :: anchors node
  | .sequence _ items => anchorsOfItems items
  | .mapping _ entries => anchorsOfEntries entries

/-- The anchored nodes among the items of a sequence. -/
def anchorsOfItems : List Node → List (Nat × Node)
  | [] => []
  | item :: rest => anchors item ++ anchorsOfItems rest

/-- The anchored nodes among the entries of a mapping. -/
def anchorsOfEntries : List (Node × Node) → List (Nat × Node)
  | [] => []
  | (key, value) :: rest => anchors key ++ anchors value ++ anchorsOfEntries rest

end

/-- A node without its anchor. -/
def bare : Node → Node
  | .anchored _ node => bare node
  | node => node

/-- The node an alias stands for, and any other node itself; `left` is the
number of aliases that may still be followed. An alias costs one, whatever it
stands for. -/
def target? (slots : List (Nat × Node)) (left : Nat) (node : Node) : Option (Node × Nat) :=
  match node.bare with
  | .alias slot =>
    if left = 0 then none
    else (slots.find? (·.1 == slot)).map fun entry => (entry.2.bare, left - 1)
  | node => some (node, left)

/-- The tree of a node in which collections are nested at most `depth`
deep. A reader looks at the parts of the outline. -/
def expand (slots : List (Nat × Node)) : Nat → Outline → Node → StateM Nat Tree
  | 0, _, node => do
    -- At the greatest depth only scalars are read.
    match target? slots (← get) node with
    | some (.scalar tag text style, left) => set left; return .scalar tag text style
    | _ => return .unread
  | depth + 1, outline, node => do
    match target? slots (← get) node with
    | some (.scalar tag text style, left) => set left; return .scalar tag text style
    | some (.sequence tag items, left) =>
      set left
      match outline.item? with
      | some item => return .sequence tag (← items.mapM (expand slots depth item))
      | none => return .unread
    | some (.mapping tag entries, left) =>
      set left
      return .mapping tag (← entries.mapM fun entry => do
        -- Keys are always looked at: they tell whether the value is.
        let key ← expand slots depth .whole entry.1
        match key.text?.bind (outline.field? ·) with
        | some value => return (key, ← expand slots depth value entry.2)
        | none => return (key, .unread))
    | _ => return .unread

end Node

namespace Tree

/-- How deep collections may be nested. -/
def maxDepth : Nat := 128

/-- The tree of the document of a text, as far as the outline goes. A slot
belongs to the node that took it last, so the anchors are searched from the
end. -/
def ofText? (outline : Outline) (text : String) : Option Tree :=
  (Node.document? text).map fun root =>
    ((root.expand root.anchors.reverse maxDepth outline).run (100 * root.events)).1

/-- A place where nothing is written. -/
def isEmptyPlace : Tree → Bool
  | .scalar _ text style => text.isEmpty && style = .plain
  | _ => false

/-- Entries whose keys are scalars, under the texts of the keys. -/
def textKeys? : List (Tree × Tree) → Option (List (String × Tree))
  | [] => some []
  | (key, value) :: rest => do
    let name ← key.text?
    return (name, value) :: (← textKeys? rest)

/-- The entries of a mapping. -/
def entries? (tree : Tree) : Option (List (String × Tree)) :=
  match tree with
  | .mapping _ entries => textKeys? entries
  | tree => if tree.isEmptyPlace then some [] else none

/-- A scalar whose text may be read as a flag or a number: a plain one,
or a literal one with the tag for it. -/
def typed? (kind : String) : Tree → Option String
  | .scalar tag text style =>
    if style = .plain || (style = .literal && tag = some (Tag.core kind)) then some text
    else none
  | _ => none

mutual

/-- The JSON value of a tree. -/
def value? : Tree → Option Json
  | .scalar tag text style => Scalar.value? tag text style
  | .sequence tag items =>
    if (tag.bind Tag.alternative?).isSome then none else (valuesOfItems? items).map .arr
  | .mapping tag entries =>
    if (tag.bind Tag.alternative?).isSome then none
    else (valuesOfEntries? entries).map fun read => .ofMap (.ofList read)
  | .unread => none

/-- The JSON values of the items of a sequence. -/
def valuesOfItems? : List Tree → Option (List Json)
  | [] => some []
  | item :: rest =>
    match value? item, valuesOfItems? rest with
    | some value, some values => some (value :: values)
    | _, _ => none

/-- The JSON values of the entries of a mapping under the texts of their
keys. -/
def valuesOfEntries? : List (Tree × Tree) → Option (List (String × Json))
  | [] => some []
  | (key, value) :: rest =>
    match key.text?, value? value, valuesOfEntries? rest with
    | some name, some value, some values => some ((name, value) :: values)
    | _, _, _ => none

end

instance : Source Tree where
  layout? tree := tree.entries?.map .named
  items?
    | .sequence _ items => some items
    | tree => if tree.isEmptyPlace then some [] else none
  entries? := entries?
  isNull?
    | .scalar tag text .plain =>
      match tag with
      | none => some (text.isEmpty || Scalar.isNullText text)
      | some tag =>
        if tag == Tag.core "null" then if Scalar.isNullText text then some true else none
        else some false
    | _ => some false
  text? := text?
  flag? tree := (tree.typed? "bool").bind Scalar.flagOf?
  number? tree :=
    (tree.typed? "int").bind fun text => Scalar.unsignedBelow? 0x10000000000000000 text.toList
  choice?
    | .scalar tag text style =>
      match tag.bind Tag.alternative? with
      | some name =>
        if style = .plain && (text.isEmpty || Scalar.isNullText text) then some name else none
      | none => some text
    | _ => none
  value? := value?

end Tree

end MultiTarget.Yaml
