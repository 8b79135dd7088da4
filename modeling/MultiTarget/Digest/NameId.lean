import MultiTarget.Digest.Sha1

/-!
# `MultiTarget.Digest.NameId`: identifiers made from names

A name-based UUID of version 5: the first sixteen bytes of the SHA-1
digest of the identifier of the name space for object identifiers and the
name, with version and variant set.

Specification X.6.2. `nameId` is `name_uuid`.
-/

set_option autoImplicit false

namespace MultiTarget.Digest

/-- The identifier of the name space for object identifiers. -/
def objectNameSpace : List UInt8 := [
  0x6b, 0xa7, 0xb8, 0x12, 0x9d, 0xad, 0x11, 0xd1, 0x80, 0xb4, 0x00, 0xc0, 0x4f, 0xd4, 0x30, 0xc8]

/-- The text of the identifier of a name. -/
def nameId (name : String) : String :=
  let bytes := ((Sha1.digest (objectNameSpace ++ name.toUTF8.toList)).take 16).zipIdx.map
    fun (b, i) =>
      if i = 6 then (b &&& 0x0f) ||| 0x50 else if i = 8 then (b &&& 0x3f) ||| 0x80 else b
  let digits := hex bytes
  let part (start count : Nat) : List Char := (digits.drop start).take count
  String.ofList (part 0 8 ++ '-' :: part 8 4 ++ '-' :: part 12 4 ++ '-' :: part 16 4 ++
    '-' :: part 20 12)

end MultiTarget.Digest
