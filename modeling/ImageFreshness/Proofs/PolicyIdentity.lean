import ImageFreshness.Policy.Fingerprint
import ImageFreshness.Proofs.JsonPrefixFree

/-!
# What tells lookups apart

The bytes that are hashed for a cache key are the JSON form of a policy and right behind it the URL
of an image.  They are those of one policy and one URL only (`Policy.identity_inj`), so two lookups
that share a key share it because of the hash.
-/

namespace ImageFreshness

open Json

/-- A pattern is known from its text. -/
theorem Pattern.source_injective [PatternEngine] : Function.Injective Pattern.source := by
  rintro ⟨source, isMatch, compiles⟩ ⟨_, isMatch', compiles'⟩ rfl
  have hmatch : isMatch = isMatch' := Option.some.inj (compiles.symm.trans compiles')
  subst hmatch
  rfl

theorem Number.ofInt_injective : Function.Injective Number.ofInt := by
  intro n m h
  unfold Number.ofInt at h
  split at h <;> split at h
  · have := Number.negative.inj h
    omega
  · cases h
  · cases h
  · have := Number.unsigned.inj h
    omega

theorem Json.Whole.ofInt (n : Int) : Whole (.number (.ofInt n)) := by
  unfold Number.ofInt
  split
  · exact .negative _
  · exact .unsigned _

namespace Policy

theorem lookup_member {α : Type} (key name : String) (value : Option α) (encode : α → Json) :
    (member name value encode).lookup key = if key = name then value.map encode else none := by
  cases value with
  | none => simp [member]
  | some a =>
    by_cases h : key = name
    · simp [member, h]
    · simp [member, List.lookup_cons, beq_false_of_ne h, h]

theorem whole_of_mem_member {α : Type} {name : String} {value : Option α} {encode : α → Json}
    (hencode : ∀ a, Whole (encode a)) {m : String × Json} (h : m ∈ member name value encode) :
    Whole m.2 := by
  cases value with
  | none => cases h
  | some a =>
    obtain rfl := List.mem_singleton.mp h
    exact hencode a

variable [PatternEngine]

def members (p : Policy) : List (String × Json) :=
  match p.toJson with
  | .object members => members
  | _ => []

theorem toJson_eq (p : Policy) : p.toJson = .object p.members := rfl

theorem whole_of_mem_members {p : Policy} {m : String × Json} (h : m ∈ p.members) :
    Whole m.2 := by
  simp only [members, toJson, List.mem_append] at h
  rcases h with ((((((h | h) | h) | h) | h) | h) | h)
  · simp only [List.mem_cons, List.not_mem_nil, or_false] at h
    rcases h with rfl | rfl
    · exact .bool _
    · exact .bool _
  · exact whole_of_mem_member (fun _ => .string _) h
  · obtain rfl := List.mem_singleton.mp h
    exact .bool _
  · exact whole_of_mem_member (fun _ => .ofInt _) h
  · exact whole_of_mem_member (fun _ => .ofInt _) h
  · exact whole_of_mem_member (fun _ => .ofInt _) h
  · exact whole_of_mem_member (fun _ => .string _) h

/-- Each option is read back from the member with its name. -/
theorem lookup_members (p : Policy) :
    p.members.lookup "use-sha" = some (.bool p.useDigest) ∧
    p.members.lookup "resolve-sha-to-tags" = some (.bool p.resolveDigest) ∧
    p.members.lookup "match-regex" = p.pattern.map (fun pattern => .string pattern.source) ∧
    p.members.lookup "use-metadata" = some (.bool p.useMetadata) ∧
    p.members.lookup "pin-major" = p.pinMajor.map (fun n => .number (.ofInt n)) ∧
    p.members.lookup "pin-minor" = p.pinMinor.map (fun n => .number (.ofInt n)) ∧
    p.members.lookup "pin-patch" = p.pinPatch.map (fun n => .number (.ofInt n)) ∧
    p.members.lookup "override-url" = p.overrideUrl.map .string := by
  simp [members, toJson, List.lookup_append, lookup_member, List.lookup_cons]

theorem members_injective : Function.Injective members := by
  intro p q h
  have hp := p.lookup_members
  rw [h] at hp
  obtain ⟨hdigest, hresolve, hpattern, hmetadata, hmajor, hminor, hpatch, hurl⟩ := hp
  obtain ⟨hdigest', hresolve', hpattern', hmetadata', hmajor', hminor', hpatch', hurl'⟩ :=
    q.lookup_members
  have hbool {a b : Bool} (hab : some (Json.bool a) = some (Json.bool b)) : a = b :=
    Json.bool.inj (Option.some.inj hab)
  have hpin : Function.Injective fun n : Int => Json.number (.ofInt n) := fun _ _ hab =>
    Number.ofInt_injective (Json.number.inj hab)
  have hsource : Function.Injective fun pattern : Pattern => Json.string pattern.source :=
    fun _ _ hab => Pattern.source_injective (Json.string.inj hab)
  cases p
  cases q
  simp only [mk.injEq]
  exact ⟨hbool (hdigest.symm.trans hdigest'), hbool (hresolve.symm.trans hresolve'),
    Option.map_injective hsource (hpattern.symm.trans hpattern'),
    hbool (hmetadata.symm.trans hmetadata'),
    Option.map_injective hpin (hmajor.symm.trans hmajor'),
    Option.map_injective hpin (hminor.symm.trans hminor'),
    Option.map_injective hpin (hpatch.symm.trans hpatch'),
    Option.map_injective (fun _ _ => Json.string.inj) (hurl.symm.trans hurl')⟩

/-- The bytes of a policy and a URL are those of no other policy and no other URL. -/
theorem identity_inj {p q : Policy} {u v : String} :
    p.identity u = q.identity v ↔ p = q ∧ u = v := by
  constructor
  · intro h
    have htext : p.toJson.text ++ u = q.toJson.text ++ v :=
      String.toByteArray_inj.mp (ByteArray.ext (Array.toList_inj.mp h))
    have hchars :
        render (.object p.members) ++ u.toList = render (.object q.members) ++ v.toList := by
      have hlist := congrArg String.toList htext
      simpa only [String.toList_append, text, String.toList_ofList, toJson_eq] using hlist
    obtain ⟨hmembers, hurl⟩ := render_object_append_inj (fun _ => whole_of_mem_members)
      (fun _ => whole_of_mem_members) hchars
    exact ⟨members_injective hmembers, String.toList_injective hurl⟩
  · rintro ⟨rfl, rfl⟩
    rfl

end Policy

end ImageFreshness
