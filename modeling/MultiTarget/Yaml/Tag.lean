/-!
# `MultiTarget.Yaml.Tag`: the tags of nodes

A tag is written as a handle, which stands for the beginning of the tag,
and a suffix in which octets may be escaped. What escapes spell need not
be a text, so a tag is a list of octets. It ends before the first zero
octet.

A tag of the core schema says how a scalar is read. A local tag, which
begins with an exclamation mark, names an alternative if the rest of it
is a text; otherwise it says nothing.
-/

set_option autoImplicit false

namespace MultiTarget.Yaml

/-- The octets of a tag. -/
abbrev Tag := List UInt8

namespace Tag

/-- The octets of a text. -/
def ofText (text : String) : Tag := text.toUTF8.toList

/-- What is left of a tag before its first zero octet. -/
def untilZero (tag : Tag) : Tag := tag.takeWhile (· != 0)

/-- The tag that an exclamation mark alone stands for. -/
def mark : Tag := ofText "!"

/-- What begins the tags of the core schema. -/
def coreStem : Tag := ofText "tag:yaml.org,2002:"

/-- The tag of the core schema with a name. -/
def core (name : String) : Tag := coreStem ++ ofText name

/-- The tag begins with an exclamation mark. -/
def isLocal (tag : Tag) : Bool := mark.isPrefixOf tag

/-- The alternative that a local tag names. -/
def alternative? (tag : Tag) : Option String :=
  if tag.isLocal then String.fromUTF8? ⟨(tag.drop mark.length).toArray⟩ else none

end Tag

end MultiTarget.Yaml
