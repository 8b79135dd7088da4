import MultiTarget.Digest.Sha256
import MultiTarget.Json.Render

/-!
# `MultiTarget.Digest.Fingerprint`: short digests of values

A fingerprint is the beginning of the digest of the compact text of a
value. Maps are ordered, so equal values have equal fingerprints.

Shortened digests of values are `compute_hash` and `hash_bytes`.
-/

set_option autoImplicit false

namespace MultiTarget.Digest

/-- The length of a fingerprint. -/
def fingerprintLength : Nat := 20

/-- The fingerprint of a value. -/
def fingerprint (value : Json) : String :=
  String.ofList ((Sha256.hexDigest value.compact).take fingerprintLength)

end MultiTarget.Digest
