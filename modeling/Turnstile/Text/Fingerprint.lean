/-!
# Fingerprints

Numbers of sixty-four bits that stand for texts. Each byte is mixed into the
number by an exclusive or, and the result is multiplied by a prime.

The bytes of several texts are mixed in one after the other, with nothing in
between. Texts that are cut apart elsewhere have the same fingerprint, and other
texts may have it by chance.

## Main definitions

* `Text.fingerprint`: The fingerprint of a list of texts.

## Theorems

* `fingerprint_eq_of_join_eq`: Only the texts in a row matter.
-/

namespace Turnstile

namespace Text

/-- The fingerprint of no bytes. -/
def fingerprintBasis : UInt64 := 0xcbf29ce484222325

/-- The prime that fingerprints are multiplied by. -/
def fingerprintPrime : UInt64 := 0x100000001b3

/-- A fingerprint with one more byte. -/
def mix (h : UInt64) (b : UInt8) : UInt64 :=
  (h ^^^ b.toUInt64) * fingerprintPrime

/-- The bytes of a text. -/
def bytes (s : String) : List UInt8 :=
  s.toList.flatMap String.utf8EncodeChar

/-- The fingerprint of a list of texts. -/
def fingerprint (texts : List String) : UInt64 :=
  (texts.flatMap bytes).foldl mix fingerprintBasis

/-- Only the texts in a row matter. -/
theorem fingerprint_eq_of_join_eq {texts others : List String}
    (h : texts.flatMap bytes = others.flatMap bytes) : fingerprint texts = fingerprint others := by
  rw [fingerprint, fingerprint, h]

end Text

end Turnstile
