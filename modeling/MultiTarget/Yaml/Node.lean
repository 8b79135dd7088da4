import MultiTarget.Yaml.Scanner

/-!
# `MultiTarget.Yaml.Node`: the tree of a YAML document

`Node.document?` builds the tree of the one document of a text. Aliases
are kept as references to slots: an anchor takes the slot numbered by
how many different anchor names the document has used before, so a name
used again takes a new slot, and a slot belongs to the node that took it
last.
-/

set_option autoImplicit false

namespace MultiTarget.Yaml

/-- A node of a document. -/
inductive Node where
  | scalar (tag : Option Tag) (text : String) (style : ScalarStyle)
  | sequence (tag : Option Tag) (items : List Node)
  | mapping (tag : Option Tag) (entries : List (Node × Node))
  | alias (slot : Nat)
  | anchored (slot : Nat) (node : Node)
  deriving Repr, Inhabited

/-- Anchor names with their slots, each name once. -/
abbrev Anchors := List (String × Nat)

/-- The anchors after a name has taken the next slot. -/
def Anchors.take (anchors : Anchors) (name : String) : Nat × Anchors :=
  let slot := anchors.length
  if anchors.any (·.1 == name) then
    (slot, anchors.map fun entry => if entry.1 == name then (name, slot) else entry)
  else (slot, (name, slot) :: anchors)

/-- What is still to be parsed, and the anchors so far. -/
structure Parsing where
  tokens : List Token
  anchors : Anchors

namespace Parsing

/-- Go past a token. -/
def skip (p : Parsing) : Parsing := { p with tokens := p.tokens.drop 1 }

/-- The next token. -/
def next? (p : Parsing) : Option Token := p.tokens.head?

/-- The next token is one of several. -/
def isAt (p : Parsing) (tokens : List Token) : Bool := p.next?.any (tokens.contains ·)

end Parsing

namespace Node

/-- The node of a place where nothing is written. -/
def nothing : Node := .scalar none "" .plain

/-- The written tag for which a handle stands; an unknown handle is
refused. -/
def tagOf? (handles : List (String × Tag)) (handle : String) (suffix : Tag) : Option Tag :=
  if handle.isEmpty then some suffix
  else (handles.find? (·.1 == handle)).map fun entry => entry.2 ++ suffix

/-- The anchor and the tag before a node, in either order. -/
def properties? (handles : List (String × Tag)) (p : Parsing) :
    Option (Option String × Option Tag × Parsing) :=
  match p.tokens with
  | .anchor name :: .tag handle suffix :: rest | .tag handle suffix :: .anchor name :: rest =>
    (tagOf? handles handle suffix).map fun tag => (some name, some tag, { p with tokens := rest })
  | .anchor name :: rest => some (some name, none, { p with tokens := rest })
  | .tag handle suffix :: rest =>
    (tagOf? handles handle suffix).map fun tag => (none, some tag, { p with tokens := rest })
  | _ => some (none, none, p)

mutual

/-- A node. Block collections are allowed where `block` is set, a block
sequence without indentation of its own where `indentless` is. -/
def node? (handles : List (String × Tag)) (block indentless : Bool) :
    Nat → Parsing → Option (Node × Parsing)
  | 0, _ => none
  | fuel + 1, p =>
    match p.tokens with
    | .alias name :: _ =>
      (p.anchors.find? (·.1 == name)).map fun entry => (.alias entry.2, p.skip)
    | _ =>
      match properties? handles p with
      | none => none
      | some (anchor, tag, p) =>
        -- The slot is taken before the content is read, so a node may contain an alias of itself.
        let (slot, p) := match anchor with
          | some name =>
            let (slot, anchors) := p.anchors.take name
            (some slot, { p with anchors })
          | none => (none, p)
        let mark (node : Node) : Node := match slot with
          | some slot => .anchored slot node
          | none => node
        let sequence (items : List Node) : Node := mark (.sequence tag items)
        let mapping (entries : List (Node × Node)) : Node := mark (.mapping tag entries)
        let finish {α : Type} (make : α → Node) : Option (α × Parsing) → Option (Node × Parsing) :=
          Option.map fun (parts, p) => (make parts, p)
        match p.tokens with
        | .blockEntry :: _ =>
          if indentless then finish sequence (indentlessItems? handles fuel [] p)
          else if slot.isSome || tag.isSome then some (mark (.scalar tag "" .plain), p)
          else none
        | .scalar text style :: _ =>
          some (mark (.scalar tag text style), p.skip)
        | .flowSequenceStart :: _ => finish sequence (flowItems? handles fuel true [] p.skip)
        | .flowMappingStart :: _ => finish mapping (flowEntries? handles fuel true [] p.skip)
        | .blockSequenceStart :: _ =>
          if block then finish sequence (blockItems? handles fuel [] p.skip)
          else if slot.isSome || tag.isSome then some (mark (.scalar tag "" .plain), p)
          else none
        | .blockMappingStart :: _ =>
          if block then finish mapping (blockEntries? handles fuel [] p.skip)
          else if slot.isSome || tag.isSome then some (mark (.scalar tag "" .plain), p)
          else none
        | _ =>
          if slot.isSome || tag.isSome then some (mark (.scalar tag "" .plain), p) else none

/-- A node, or nothing before one of the tokens that end it. -/
def nodeUnless? (handles : List (String × Tag)) (ends : List Token) (block indentless : Bool) :
    Nat → Parsing → Option (Node × Parsing)
  | 0, _ => none
  | fuel + 1, p =>
    if p.isAt ends then some (nothing, p) else node? handles block indentless fuel p

/-- The items of a block sequence, in reverse. -/
def blockItems? (handles : List (String × Tag)) :
    Nat → List Node → Parsing → Option (List Node × Parsing)
  | 0, _, _ => none
  | fuel + 1, read, p =>
    match p.next? with
    | some .blockEntry =>
      match nodeUnless? handles [.blockEntry, .blockEnd] true false fuel p.skip with
      | some (item, p) => blockItems? handles fuel (item :: read) p
      | none => none
    | some .blockEnd => some (read.reverse, p.skip)
    | _ => none

/-- The items of a sequence as a value, indented like its key. -/
def indentlessItems? (handles : List (String × Tag)) :
    Nat → List Node → Parsing → Option (List Node × Parsing)
  | 0, _, _ => none
  | fuel + 1, read, p =>
    match p.next? with
    | some .blockEntry =>
      match nodeUnless? handles [.blockEntry, .key, .value, .blockEnd] true false fuel p.skip with
      | some (item, p) => indentlessItems? handles fuel (item :: read) p
      | none => none
    | _ => some (read.reverse, p)

/-- The entries of a block mapping, in reverse. -/
def blockEntries? (handles : List (String × Tag)) :
    Nat → List (Node × Node) → Parsing → Option (List (Node × Node) × Parsing)
  | 0, _, _ => none
  | fuel + 1, read, p =>
    let ends := [.key, .value, .blockEnd]
    let entry? : Option (Node × Parsing) → Option (List (Node × Node) × Parsing)
      | none => none
      | some (key, p) =>
        if p.isAt [.value] then
          match nodeUnless? handles ends true true fuel p.skip with
          | some (value, p) => blockEntries? handles fuel ((key, value) :: read) p
          | none => none
        -- A key without a colon has no value, and the entry counts all the same.
        else blockEntries? handles fuel ((key, nothing) :: read) p
    match p.next? with
    | some .key => entry? (nodeUnless? handles ends true true fuel p.skip)
    | some .blockEnd => some (read.reverse, p.skip)
    | _ => none

/-- The items of a flow sequence, in reverse. An item with a key is a
mapping with one entry. -/
def flowItems? (handles : List (String × Tag)) :
    Nat → Bool → List Node → Parsing → Option (List Node × Parsing)
  | 0, _, _, _ => none
  | fuel + 1, first, read, p =>
    let item? (p : Parsing) : Option (List Node × Parsing) :=
      match p.next? with
      | some .flowSequenceEnd => some (read.reverse, p.skip)
      | some .key =>
        let p := p.skip
        let key? :=
          if p.isAt [.value, .flowEntry, .flowSequenceEnd] then some (nothing, p.skip)
          else node? handles false false fuel p
        match key? with
        | none => none
        | some (key, p) =>
          let value? :=
            if p.isAt [.value] then
              nodeUnless? handles [.flowEntry, .flowSequenceEnd] false false fuel p.skip
            else some (nothing, p)
          match value? with
          | none => none
          | some (value, p) =>
            flowItems? handles fuel false (.mapping none [(key, value)] :: read) p
      | _ =>
        match node? handles false false fuel p with
        | some (item, p) => flowItems? handles fuel false (item :: read) p
        | none => none
    if p.isAt [.flowSequenceEnd] then some (read.reverse, p.skip)
    else if first then item? p
    else if p.isAt [.flowEntry] then item? p.skip
    else none

/-- The entries of a flow mapping, in reverse. -/
def flowEntries? (handles : List (String × Tag)) :
    Nat → Bool → List (Node × Node) → Parsing → Option (List (Node × Node) × Parsing)
  | 0, _, _, _ => none
  | fuel + 1, first, read, p =>
    let entry? (p : Parsing) : Option (List (Node × Node) × Parsing) :=
      match p.next? with
      | some .flowMappingEnd => some (read.reverse, p.skip)
      | some .key =>
        match nodeUnless? handles [.value, .flowEntry, .flowMappingEnd] false false fuel p.skip with
        | none => none
        | some (key, p) =>
          let value? :=
            if p.isAt [.value] then
              nodeUnless? handles [.flowEntry, .flowMappingEnd] false false fuel p.skip
            else some (nothing, p)
          match value? with
          | none => none
          | some (value, p) => flowEntries? handles fuel false ((key, value) :: read) p
      | _ =>
        match node? handles false false fuel p with
        | some (key, p) => flowEntries? handles fuel false ((key, nothing) :: read) p
        | none => none
    if p.isAt [.flowMappingEnd] then some (read.reverse, p.skip)
    else if first then entry? p
    else if p.isAt [.flowEntry] then entry? p.skip
    else none

end

/-! ### Documents -/

/-- The handles that every document knows. -/
def defaultHandles : List (String × Tag) := [("!", Tag.mark), ("!!", Tag.coreStem)]

/-- The directives before a document: at most one version, of the first
major version, and the handles declared, each once. -/
def directives? : List Token → Bool → List (String × Tag) →
    Option (List (String × Tag) × List Token)
  | .versionDirective major minor :: rest, versioned, handles =>
    if versioned || major != 1 || (minor != 1 && minor != 2) then none
    else directives? rest true handles
  | .tagDirective handle stem :: rest, versioned, handles =>
    if handles.any (·.1 == handle) then none
    else directives? rest versioned ((handle, stem) :: handles)
  | tokens, _, handles => some (handles ++ defaultHandles, tokens)

/-- A token that begins or ends a document. -/
def isBoundary : Token → Bool
  | .versionDirective .. | .tagDirective .. | .documentStart | .documentEnd => true
  | _ => false

/-- The root of the only document of a list of tokens. -/
def ofTokens? (tokens : List Token) : Option Node := do
  let fuel := 4 * tokens.length + 8
  let (root, p) ← match tokens with
    | [] => none
    | first :: _ =>
      if isBoundary first && first != .documentEnd then do
        let (handles, rest) ← directives? tokens false []
        match rest with
        | .documentStart :: rest =>
          -- A document that ends where it starts has an empty root.
          if rest.isEmpty || rest.head?.any isBoundary then some (nothing, ⟨rest, []⟩)
          else node? handles true false fuel ⟨rest, []⟩
        | _ => none
      else node? defaultHandles true false fuel ⟨tokens, []⟩
  -- The end may be marked, but a second document is refused.
  if p.tokens.all (· == .documentEnd) then return root else none

/-- The root of the only document of a text. -/
def document? (text : String) : Option Node := (tokens? text).bind ofTokens?

end Node

end MultiTarget.Yaml
