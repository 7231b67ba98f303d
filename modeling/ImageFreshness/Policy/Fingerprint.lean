import ImageFreshness.Policy.Basic

/-!
# Fingerprints

A tag list is cached under the fingerprint of the policy and the image it was looked up for: a
32-bit hash of the JSON form of the policy followed by the URL.  Different pairs may have one
fingerprint.

Specification: section 4.3, key derivation.
-/

namespace ImageFreshness

namespace Fingerprint

def basis : UInt32 := 2166136261

def prime : UInt32 := 16777619

def step (hash : UInt32) (byte : UInt8) : UInt32 := hash * prime ^^^ byte.toUInt32

/-- The hash of some bytes. -/
def hash (bytes : List UInt8) : UInt32 := bytes.foldl step basis

end Fingerprint

namespace Policy

variable [PatternEngine]

/-- The bytes that a policy and an image are told apart by. -/
def identity (policy : Policy) (imageUrl : String) : List UInt8 :=
  (policy.toJson.text ++ imageUrl).toUTF8.data.toList

def cacheKey (policy : Policy) (imageUrl : String) : String :=
  String.ofList (Text.Decimal.ofNat (Fingerprint.hash (policy.identity imageUrl)).toNat)

end Policy

end ImageFreshness
