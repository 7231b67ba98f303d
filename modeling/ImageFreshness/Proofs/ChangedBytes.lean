import ImageFreshness.Pattern.Compile
import ImageFreshness.Policy.Fingerprint
import ImageFreshness.Proofs.JsonPrefixFree

/-!
# Single changed bytes

A 32-bit hash cannot tell all texts apart, but it does tell apart texts of one length that differ
in one byte.  The hash before a byte and the byte itself are both known from the hash after it, if
the other one is, because the prime is odd and so has an inverse (`Fingerprint.step_left_injective`,
`Fingerprint.step_right_injective`).  Two hashes that differ after the changed byte thus differ
after all the bytes behind it.

The same holds of the keys of a cache, for a byte of the URL and for one of the JSON form of the
policy (`Policy.cacheKey_ne_of_oneByteApart`).
-/

namespace ImageFreshness

namespace Fingerprint

/-- The bytes have one length and differ at one place only. -/
def OneByteApart (xs ys : List UInt8) : Prop :=
  xs.length = ys.length ∧ ∃! place : Nat, xs[place]? ≠ ys[place]?

theorem oneByteApart_iff {xs ys : List UInt8} :
    OneByteApart xs ys ↔
      ∃ before a b after, a ≠ b ∧ xs = before ++ a :: after ∧ ys = before ++ b :: after := by
  constructor
  · rintro ⟨hlength, place, hdiffer, honly⟩
    have hsame {other : Nat} (hother : other ≠ place) : xs[other]? = ys[other]? := by
      by_contra hne
      exact hother (honly other hne)
    have hplace : place < xs.length := by
      by_contra hge
      apply hdiffer
      rw [List.getElem?_eq_none (by omega), List.getElem?_eq_none (by omega)]
    have hplace' : place < ys.length := hlength ▸ hplace
    have hbefore : xs.take place = ys.take place := by
      apply List.ext_getElem?
      intro i
      rw [List.getElem?_take, List.getElem?_take]
      split
      · exact hsame (by omega)
      · rfl
    have hafter : xs.drop (place + 1) = ys.drop (place + 1) := by
      apply List.ext_getElem?
      intro i
      rw [List.getElem?_drop, List.getElem?_drop]
      exact hsame (by omega)
    refine ⟨xs.take place, xs[place], ys[place], xs.drop (place + 1), ?_, ?_, ?_⟩
    · intro hequal
      apply hdiffer
      rw [List.getElem?_eq_getElem hplace, List.getElem?_eq_getElem hplace', hequal]
    · rw [List.getElem_cons_drop, List.take_append_drop]
    · rw [hbefore, hafter, List.getElem_cons_drop, List.take_append_drop]
  · rintro ⟨before, a, b, after, hne, rfl, rfl⟩
    refine ⟨by simp, before.length, by simpa using hne, ?_⟩
    intro place hdiffer
    by_contra hother
    apply hdiffer
    rcases Nat.lt_or_gt_of_ne hother with hlt | hgt
    · rw [List.getElem?_append_left hlt, List.getElem?_append_left hlt]
    · obtain ⟨n, rfl⟩ := Nat.exists_eq_add_of_lt hgt
      rw [List.getElem?_append_right (by omega), List.getElem?_append_right (by omega)]
      simp [show before.length + n + 1 - before.length = n + 1 by omega]

/-! ### One byte -/

/-- What undoes the multiplication by `prime`. -/
def inverse : UInt32 := 899433627

theorem mul_prime_injective : Function.Injective (· * prime) := by
  have hundo (hash : UInt32) : hash * prime * inverse = hash := by
    have hone : prime * inverse = 1 := by decide
    rw [UInt32.mul_assoc, hone, UInt32.mul_one]
  intro hash hash' h
  rw [← hundo hash, ← hundo hash']
  exact congrArg (· * inverse) h

theorem step_left_injective (byte : UInt8) : Function.Injective (step · byte) := by
  intro hash hash' h
  exact mul_prime_injective ((UInt32.xor_left_inj byte.toUInt32).mp h)

theorem step_right_injective (hash : UInt32) : Function.Injective (step hash) := by
  intro byte byte' h
  exact UInt8.toUInt32_inj.mp ((UInt32.xor_right_inj (hash * prime)).mp h)

/-! ### All bytes -/

theorem foldl_step_injective (bytes : List UInt8) :
    Function.Injective fun hash => bytes.foldl step hash := by
  induction bytes with
  | nil => exact fun _ _ h => h
  | cons byte rest ih => exact ih.comp (step_left_injective byte)

theorem hash_append_cons_ne (before after : List UInt8) {a b : UInt8} (hne : a ≠ b) :
    hash (before ++ a :: after) ≠ hash (before ++ b :: after) := by
  intro h
  simp only [hash, List.foldl_append, List.foldl_cons] at h
  exact hne (step_right_injective _ (foldl_step_injective after h))

def utf8 (text : String) : List UInt8 := text.toUTF8.data.toList

end Fingerprint

namespace Policy

open Fingerprint

section AnyEngine

variable [PatternEngine]

theorem identity_eq (p : Policy) (url : String) :
    p.identity url = utf8 p.toJson.text ++ utf8 url := by
  simp [identity, utf8]

theorem cacheKey_eq_iff {p q : Policy} {u v : String} :
    p.cacheKey u = q.cacheKey v ↔
      Fingerprint.hash (p.identity u) = Fingerprint.hash (q.identity v) := by
  constructor
  · intro h
    exact UInt32.toNat_inj.mp (Text.Decimal.ofNat_injective (String.ofList_injective h))
  · intro h
    rw [cacheKey, h, cacheKey]

/-- **A single changed byte changes the fingerprint.**  Bytes that differ at one place only have two
    hashes.  So two URLs that differ in one byte have two keys under every policy, and so have two
    policies for every URL if their JSON forms differ in one byte, say in a digit of a pin. -/
theorem cacheKey_ne_of_oneByteApart :
    (∀ xs ys, OneByteApart xs ys → Fingerprint.hash xs ≠ Fingerprint.hash ys) ∧
    (∀ (p : Policy) (u v : String), OneByteApart (utf8 u) (utf8 v) →
      p.cacheKey u ≠ p.cacheKey v) ∧
    (∀ (p q : Policy) (u : String), OneByteApart (utf8 p.toJson.text) (utf8 q.toJson.text) →
      p.cacheKey u ≠ q.cacheKey u) := by
  refine ⟨?_, ?_, ?_⟩
  · intro xs ys h
    obtain ⟨before, a, b, after, hne, rfl, rfl⟩ := oneByteApart_iff.mp h
    exact hash_append_cons_ne before after hne
  · intro p u v h
    obtain ⟨before, a, b, after, hne, hu, hv⟩ := oneByteApart_iff.mp h
    rw [Ne, cacheKey_eq_iff, identity_eq, identity_eq, hu, hv, ← List.append_assoc,
      ← List.append_assoc]
    exact hash_append_cons_ne (utf8 p.toJson.text ++ before) after hne
  · intro p q u h
    obtain ⟨before, a, b, after, hne, hp, hq⟩ := oneByteApart_iff.mp h
    rw [Ne, cacheKey_eq_iff, identity_eq, identity_eq, hp, hq, List.append_assoc,
      List.append_assoc, List.cons_append, List.cons_append]
    exact hash_append_cons_ne before (after ++ utf8 u) hne

end AnyEngine

theorem cacheKey_ne_of_oneByteApart_port :
    let pinned (major : Int) : Policy := { empty with pinMajor := some major }
    let url := "localhost:5000/app"
    OneByteApart [1, 2, 3] [1, 7, 3] ∧ Fingerprint.hash [1, 2, 3] ≠ Fingerprint.hash [1, 7, 3] ∧
      OneByteApart (utf8 url) (utf8 "localhost:5001/app") ∧
      (pinned 12).cacheKey url ≠ (pinned 12).cacheKey "localhost:5001/app" ∧
      OneByteApart (utf8 (pinned 12).toJson.text) (utf8 (pinned 17).toJson.text) ∧
      (pinned 12).cacheKey url ≠ (pinned 17).cacheKey url := by
  intro pinned url
  have hbyte : OneByteApart [1, 2, 3] [1, 7, 3] :=
    oneByteApart_iff.mpr ⟨[1], 2, 7, [3], by decide, rfl, rfl⟩
  have hport : OneByteApart (utf8 url) (utf8 "localhost:5001/app") :=
    oneByteApart_iff.mpr
      ⟨utf8 "localhost:500", 48, 49, utf8 "/app", by decide, by decide, by decide⟩
  have hpin : OneByteApart (utf8 (pinned 12).toJson.text) (utf8 (pinned 17).toJson.text) := by
    let before := utf8 ("\x7b\"use-sha\":false,\"resolve-sha-to-tags\":false," ++
      "\"use-metadata\":false,\"pin-major\":1")
    exact oneByteApart_iff.mpr
      ⟨before, 50, 55, utf8 "\x7d", by decide, by decide +kernel, by decide +kernel⟩
  obtain ⟨hhash, hurl, hpolicy⟩ := cacheKey_ne_of_oneByteApart
  exact ⟨hbyte, hhash _ _ hbyte, hport, hurl _ _ _ hport, hpin, hpolicy _ _ _ hpin⟩

end Policy

end ImageFreshness
