/-!
# `MultiTarget.Text.Cut`: text before and after a separator

`cutFirst?` cuts at the first occurrence of a separator, `cutLast?` at
the last one. The separator belongs to neither part.
-/

set_option autoImplicit false

namespace MultiTarget.Text

/-- The text before and after the first occurrence of a separator. -/
def cutFirst? (separator : List Char) : List Char → Option (List Char × List Char)
  | [] => if separator.isEmpty then some ([], []) else none
  | c :: rest =>
    match separator.isPrefixOf? (c :: rest) with
    | some after => some ([], after)
    | none => (cutFirst? separator rest).map fun (before, after) => (c :: before, after)

/-- The text before and after the last occurrence of a separator. -/
def cutLast? (separator : List Char) : List Char → Option (List Char × List Char)
  | [] => if separator.isEmpty then some ([], []) else none
  | c :: rest =>
    match cutLast? separator rest with
    | some (before, after) => some (c :: before, after)
    | none => (separator.isPrefixOf? (c :: rest)).map fun after => ([], after)

/-- The pieces between the occurrences of a separating character. -/
def pieces (separator : Char) : List Char → List (List Char)
  | [] => [[]]
  | c :: rest =>
    if c = separator then [] :: pieces separator rest
    else match pieces separator rest with
      | [] => [[c]]
      | piece :: others => (c :: piece) :: others

/-- The text before a suffix it ends with. -/
def dropSuffix? (suffix cs : List Char) : Option (List Char) :=
  (suffix.reverse.isPrefixOf? cs.reverse).map List.reverse

/-- An ASCII capital as a small letter; other characters stay. -/
def lowerAscii (text : String) : String := String.ofList (text.toList.map Char.toLower)

/-- The texts are equal but for the case of ASCII letters. -/
def equalIgnoringCase (a b : String) : Bool := lowerAscii a == lowerAscii b

end MultiTarget.Text
