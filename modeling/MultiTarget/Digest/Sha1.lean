import MultiTarget.Digest.Padding

/-!
# `MultiTarget.Digest.Sha1`: the 160-bit secure hash

The standard SHA-1 digest of a list of bytes, which identifiers made
from names are cut from.
-/

set_option autoImplicit false

namespace MultiTarget.Digest.Sha1

/-- The chaining state. -/
structure State where
  a : UInt32
  b : UInt32
  c : UInt32
  d : UInt32
  e : UInt32
  deriving DecidableEq, Repr

/-- The state before the first block. -/
def initial : State := ⟨0x67452301, 0xefcdab89, 0x98badcfe, 0x10325476, 0xc3d2e1f0⟩

/-- The next word of a schedule from the words before it, latest first. -/
def nextWord (earlier : List UInt32) : UInt32 :=
  let word (back : Nat) : UInt32 := earlier.getD (back - 1) 0
  rotateLeft (word 3 ^^^ word 8 ^^^ word 14 ^^^ word 16) 1

/-- A block extended to eighty words. -/
def schedule (block : List UInt32) : List UInt32 :=
  ((List.range 64).foldl (fun words _ => nextWord words :: words) block.reverse).reverse

/-- The mixing function and the constant of a round. -/
def mix (i : Nat) (s : State) : UInt32 × UInt32 :=
  if i < 20 then ((s.b &&& s.c) ||| (~~~s.b &&& s.d), 0x5a827999)
  else if i < 40 then (s.b ^^^ s.c ^^^ s.d, 0x6ed9eba1)
  else if i < 60 then ((s.b &&& s.c) ||| (s.b &&& s.d) ||| (s.c &&& s.d), 0x8f1bbcdc)
  else (s.b ^^^ s.c ^^^ s.d, 0xca62c1d6)

/-- One round of the compression function. -/
def round (s : State) (i : Nat) (word : UInt32) : State :=
  let (mixed, constant) := mix i s
  ⟨rotateLeft s.a 5 + mixed + s.e + constant + word, s.a, rotateLeft s.b 30, s.c, s.d⟩

/-- The state after a block. -/
def compress (s : State) (block : List UInt32) : State :=
  let t := (schedule block).zipIdx.foldl (fun t wi => round t wi.2 wi.1) s
  ⟨s.a + t.a, s.b + t.b, s.c + t.c, s.d + t.d, s.e + t.e⟩

/-- The twenty bytes of the digest of a message. -/
def digest (message : List UInt8) : List UInt8 :=
  let s := (blocks message).foldl compress initial
  [s.a, s.b, s.c, s.d, s.e].flatMap wordBytes

end MultiTarget.Digest.Sha1
