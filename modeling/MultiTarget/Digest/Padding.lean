/-!
# `MultiTarget.Digest.Padding`: messages as blocks of words

What the secure hash functions share: a message is followed by a one
bit, zeros and its length in bits, cut into blocks of sixteen 32-bit
words with the most significant byte first. Digests are written with two
hexadecimal digits for each byte.
-/

set_option autoImplicit false

namespace MultiTarget.Digest

/-- A word rotated to the right. -/
def rotateRight (x : UInt32) (n : UInt32) : UInt32 := (x >>> n) ||| (x <<< (32 - n))

/-- A word rotated to the left. -/
def rotateLeft (x : UInt32) (n : UInt32) : UInt32 := (x <<< n) ||| (x >>> (32 - n))

/-- The four bytes of a word, the most significant one first. -/
def wordBytes (w : UInt32) : List UInt8 :=
  [(w >>> 24).toUInt8, (w >>> 16).toUInt8, (w >>> 8).toUInt8, w.toUInt8]

/-- The words of a list of bytes; bytes that do not fill a word are
left out. -/
def words : List UInt8 → List UInt32
  | a :: b :: c :: d :: rest =>
    (a.toUInt32 <<< 24 ||| b.toUInt32 <<< 16 ||| c.toUInt32 <<< 8 ||| d.toUInt32) :: words rest
  | _ => []

/-- The message with a one bit, zeros and the number of its bits. -/
def pad (message : List UInt8) : List UInt8 :=
  let size := message.length
  let zeros := (55 + 64 - size % 64) % 64
  let bits := UInt64.ofNat (8 * size)
  message ++ ((0x80 : UInt8) :: List.replicate zeros 0) ++
    wordBytes (bits >>> 32).toUInt32 ++ wordBytes bits.toUInt32

/-- The leading blocks of sixteen words, at most `count` of them. -/
def takeBlocks : Nat → List UInt32 → List (List UInt32)
  | 0, _ => []
  | count + 1, ws => ws.take 16 :: takeBlocks count (ws.drop 16)

/-- The blocks of a padded message. -/
def blocks (message : List UInt8) : List (List UInt32) :=
  let ws := words (pad message)
  takeBlocks (ws.length / 16) ws

/-- Two hexadecimal digits for each byte. -/
def hex (bytes : List UInt8) : List Char :=
  bytes.flatMap fun b => [Nat.digitChar (b.toNat / 16), Nat.digitChar (b.toNat % 16)]

theorem hex_length (bytes : List UInt8) : (hex bytes).length = 2 * bytes.length := by
  induction bytes with
  | nil => rfl
  | cons b rest ih =>
    rw [show hex (b :: rest)
      = Nat.digitChar (b.toNat / 16) :: Nat.digitChar (b.toNat % 16) :: hex rest from rfl]
    simp [ih]
    omega

end MultiTarget.Digest
