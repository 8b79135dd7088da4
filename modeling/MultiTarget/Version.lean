import MultiTarget.ContentError
import MultiTarget.Text.Blank
import MultiTarget.Text.Cut
import MultiTarget.Text.Numeral

/-!
# `MultiTarget.Version`: versions of multi-target applications

A version is one to three numbers separated by dots, optionally followed
by a dash or a plus and a qualifier. Versions are ordered by their
numbers in turn and then by qualifier, none being the least.

Specification 4.9 (versions of entries). `parse` has its name.
-/

set_option autoImplicit false

namespace MultiTarget

/-- A version. -/
structure Version where
  major : Nat
  minor : Nat
  patch : Nat
  qualifier : Option String
  deriving DecidableEq, Repr

namespace Version

/-- The numbers and the qualifier of a text; a qualifier that is announced must
not be empty. The first dash or plus announces it, so it may have more of them
inside. -/
def cutQualifier? (cs : List Char) : Option (List Char × Option String) :=
  match cs.span fun c => c ≠ '-' && c ≠ '+' with
  | (numbers, []) => some (numbers, none)
  | (_, [_]) => none
  | (numbers, _ :: qualifier) => some (numbers, some (String.ofList qualifier))

/-- The version of a text. Numbers that are left out are zero; each is read as
an unsigned 64-bit number. -/
def ofText? (text : String) : Option Version := do
  let (numbers, qualifier) ← cutQualifier? (Text.trim text.toList)
  match (Text.pieces '.' numbers).map (Text.unsigned? 0x10000000000000000) with
  | [some major] => return ⟨major, 0, 0, qualifier⟩
  | [some major, some minor] => return ⟨major, minor, 0, qualifier⟩
  | [some major, some minor, some patch] => return ⟨major, minor, patch, qualifier⟩
  | _ => none

/-- The version of a multi-target application. -/
def parse (mta text : String) : Except ContentError Version :=
  match ofText? text with
  | some version => .ok version
  | none => .error (.invalidVersion mta text)

/-- A version as text, all three numbers written. The qualifier follows a dash
even if it was read behind a plus. -/
def render (v : Version) : String :=
  let numbers := s!"{v.major}.{v.minor}.{v.patch}"
  match v.qualifier with
  | some qualifier => numbers ++ "-" ++ qualifier
  | none => numbers

/-- The order of qualifiers: none is the least, and texts are compared by their
characters. -/
def compareQualifiers : Option String → Option String → Ordering
  | none, none => .eq
  | none, some _ => .lt
  | some _, none => .gt
  | some a, some b => compare a b

/-- The order of versions. -/
def compareTo (a b : Version) : Ordering :=
  (compare a.major b.major).then <| (compare a.minor b.minor).then <|
    (compare a.patch b.patch).then <| compareQualifiers a.qualifier b.qualifier

instance : Ord Version := ⟨compareTo⟩

end Version

end MultiTarget
