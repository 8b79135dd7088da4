import MultiTarget.Text.Blank

/-!
# `MultiTarget.HostLabel`: text as a label of a host name

A label has at most 63 characters, each a small letter, a digit or a
dash, and neither begins nor ends with a dash. Any text is turned into
one: letters become small, every other character becomes a dash, and
dashes at the ends and characters beyond the limit are cut.

Specification X.4 (`default-host`, `default-idle-host`). `ofText` is
`sanitize_host`.
-/

set_option autoImplicit false

namespace MultiTarget.HostLabel

/-- The greatest length of a label. -/
def maxLength : Nat := 63

/-- The characters of labels. -/
def isLabelChar (c : Char) : Bool := c.isLower || c.isDigit || c = '-'

/-- A character as it stands in a label. Two letters beyond ASCII have
small forms that begin with an ASCII letter: the capital I with a dot,
whose dot is a character of its own, and the sign of the kelvin. -/
def spell (c : Char) : List Char :=
  if c.toNat = 0x130 then ['i', '-']
  else if c.toNat = 0x212A then ['k']
  else if isLabelChar c.toLower then [c.toLower] else ['-']

/-- The label of a text. Dashes at the start are cut before the limit counts,
and those at the end once more after it: cutting may leave a dash last. A text
of which only dashes are spelled has the empty label. -/
def ofText (text : String) : String :=
  let spelled := Text.stripBoth (· = '-') (text.toList.flatMap spell)
  -- Nothing is put in place of what is cut, so a label may end up shorter than the limit.
  String.ofList (Text.dropWhileEnd (· = '-') (spelled.take maxLength))

end MultiTarget.HostLabel
