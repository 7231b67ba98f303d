import ImageFreshness.Pattern.Compile
import ImageFreshness.Policy.Selection
import ImageFreshness.Proofs.VersionOrder

/-!
# The tag that is selected by version

A selection keeps one candidate and replaces it whenever a better one comes along.  If "better" is
a strict order, be it partial or not, then nothing in the list is better than what is kept in the
end: each replacement is better than all that has been kept before it, and so than anything that
those were better than.

Preferring a tag by version and then, among equal tags, by time is such an order.
-/

namespace ImageFreshness

/-! ### Keeping the best -/

section PickBest

variable {α : Type} {better : α → α → Bool}

/-- What is kept of a list. -/
structure IsPick (better : α → α → Bool) (xs : List α) (r : α) : Prop where
  /-- No element is better. -/
  best : ∀ x ∈ xs, better r x = false
  /-- Something tells every earlier element apart from it. -/
  first : ∃ before after, xs = before ++ r :: after ∧
    ∀ x ∈ before, ∃ kept, better kept r = true ∧ better kept x = false

/-- A further element is kept, or it is not. -/
theorem IsPick.snoc (hself : ∀ x, better x x = false)
    (htrans : ∀ x y z, better x y = true → better y z = true → better x z = true)
    {xs : List α} {r : α} (h : IsPick better xs r) (x : α) :
    IsPick better (xs ++ [x]) (if better r x then x else r) := by
  by_cases hbetter : better r x = true
  · rw [if_pos hbetter]
    refine ⟨?_, xs, [], rfl, fun y hy => ⟨r, hbetter, h.best y hy⟩⟩
    intro y hy
    rcases List.mem_append.mp hy with hy | hy
    · -- what beats the new element would have beaten the old one
      rw [Bool.eq_false_iff]
      intro hxy
      have hry := htrans r x y hbetter hxy
      rw [h.best y hy] at hry
      cases hry
    · rw [List.mem_singleton.mp hy]
      exact hself x
  · rw [if_neg hbetter]
    obtain ⟨before, after, hxs, hbefore⟩ := h.first
    refine ⟨?_, before, after ++ [x], by simp [hxs], hbefore⟩
    intro y hy
    rcases List.mem_append.mp hy with hy | hy
    · exact h.best y hy
    · rw [List.mem_singleton.mp hy]
      exact Bool.eq_false_iff.mpr hbetter

/-- What keeping the best does once it has found something to keep. -/
def keepBest (better : α → α → Bool) (r : α) (xs : List α) : α :=
  xs.foldl (fun best x => if better best x then x else best) r

theorem pickBest_cons (better : α → α → Bool) (x : α) (xs : List α) :
    pickBest better (x :: xs) = some (keepBest better x xs) := by
  unfold pickBest keepBest
  rw [List.foldl_cons]
  induction xs generalizing x with
  | nil => rfl
  | cons y ys ih =>
    rw [List.foldl_cons, List.foldl_cons, ← ih]
    by_cases hbetter : better x y = true
    · simp [hbetter]
    · simp [hbetter]

theorem pickBest_eq_none_iff {xs : List α} : pickBest better xs = none ↔ xs = [] := by
  cases xs with
  | nil => simp [pickBest]
  | cons x xs => simp [pickBest_cons]

/-- What holds of the first element and outlives every further one holds of what is kept in the
    end. -/
theorem pickBest_induction {motive : List α → α → Prop} (hfirst : ∀ x, motive [x] x)
    (hsnoc : ∀ xs r x, motive xs r → motive (xs ++ [x]) (if better r x then x else r))
    {xs : List α} {r : α} (h : pickBest better xs = some r) : motive xs r := by
  cases xs with
  | nil => cases h
  | cons x xs =>
    rw [pickBest_cons] at h
    cases h
    have hkeep {before : List α} {kept : α} (hkept : motive before kept) (ys : List α) :
        motive (before ++ ys) (keepBest better kept ys) := by
      induction ys generalizing before kept with
      | nil => simpa [keepBest] using hkept
      | cons y ys ih =>
        have hys := ih (hsnoc before kept y hkept)
        simpa [keepBest] using hys
    exact hkeep (hfirst x) xs

theorem pickBest_isPick (hself : ∀ x, better x x = false)
    (htrans : ∀ x y z, better x y = true → better y z = true → better x z = true)
    {xs : List α} {r : α} (h : pickBest better xs = some r) : IsPick better xs r := by
  refine pickBest_induction (fun x => ?_) (fun xs r x hpick => hpick.snoc hself htrans x) h
  exact ⟨by simpa using hself x, [], [], rfl, by simp⟩

end PickBest

/-! ### Instants -/

namespace Instant

theorem before_iff (a b : Instant) :
    a.before b = true ↔ a.seconds < b.seconds ∨ (a.seconds = b.seconds ∧ a.nanos < b.nanos) := by
  simp [before]

theorem before_self (a : Instant) : a.before a = false := by
  simp [before]

theorem before_trans {a b c : Instant} (hab : a.before b = true) (hbc : b.before c = true) :
    a.before c = true := by
  rw [before_iff] at hab hbc ⊢
  omega

/-- What is not after one of two instants is before the later one. -/
theorem before_of_not_before {a b c : Instant} (hbc : b.before c = true)
    (hba : b.before a = false) : a.before c = true := by
  rw [Bool.eq_false_iff, ne_eq, before_iff] at hba
  rw [before_iff] at hbc ⊢
  omega

/-- Of two instants one is before the other, unless they are the same. -/
theorem before_of_ne {a b : Instant} (hne : a ≠ b) (hba : b.before a = false) :
    a.before b = true := by
  rw [Bool.eq_false_iff, ne_eq, before_iff] at hba
  rw [before_iff]
  by_cases hseconds : a.seconds = b.seconds
  · have hnanos : a.nanos ≠ b.nanos := by
      intro h
      cases a
      cases b
      cases hseconds
      cases h
      exact hne rfl
    omega
  · omega

end Instant

@[simp] theorem ImageTag.version_tag (t : ImageTag) : t.version.tag = t.tag :=
  TagVersion.parse_tag t.tag

namespace Policy

/-! ### The order in which tags are preferred -/

theorem laterVersion_iff (a b : ImageTag) :
    laterVersion a b = true ↔
      a.version.lessThan b.version = true ∨
        (a.tag = b.tag ∧ a.created.before b.created = true) := by
  simp [laterVersion, TagVersion.sameTag]

theorem laterVersion_self (t : ImageTag) : laterVersion t t = false := by
  rw [Bool.eq_false_iff, ne_eq, laterVersion_iff, TagVersion.lessThan_self, Instant.before_self]
  simp

theorem laterVersion_trans (a b c : ImageTag) (hab : laterVersion a b = true)
    (hbc : laterVersion b c = true) : laterVersion a c = true := by
  rw [laterVersion_iff] at hab hbc ⊢
  rcases hab with hab | ⟨hab, hbefore⟩
  · rcases hbc with hbc | ⟨hbc, -⟩
    · exact Or.inl (TagVersion.lessThan_trans hab hbc)
    · -- tags with one text have one version
      have hversion : b.version = c.version := congrArg TagVersion.parse hbc
      exact Or.inl (hversion ▸ hab)
  · rcases hbc with hbc | ⟨hbc, hbefore'⟩
    · have hversion : a.version = b.version := congrArg TagVersion.parse hab
      exact Or.inl (hversion ▸ hbc)
    · exact Or.inr ⟨hab.trans hbc, Instant.before_trans hbefore hbefore'⟩

/-! ### Candidates -/

theorem pinHolds_iff (pin : Option Int) (component : Nat) :
    pinHolds pin component = true ↔ ∀ n, pin = some n → n = component := by
  cases pin with
  | none => simp [pinHolds]
  | some n => simp [pinHolds]

section AnyEngine

variable [PatternEngine]

/-- A tag is a candidate if it matches the pattern.  Without a pattern it must not have metadata,
    unless the policy admits that, and each pinned number must be the one in the tag. -/
def Permits (policy : Policy) (t : ImageTag) : Prop :=
  match policy.pattern with
  | some pattern => pattern.isMatch t.tag = true
  | none =>
    (t.version.hasMetadata = true → policy.useMetadata = true) ∧
      (∀ n, policy.pinMajor = some n → n = t.version.major) ∧
      (∀ n, policy.pinMinor = some n → n = t.version.minor) ∧
      (∀ n, policy.pinPatch = some n → n = t.version.patch)

theorem allowsVersion_iff (policy : Policy) (t : ImageTag) :
    policy.allowsVersion t = true ↔ policy.Permits t := by
  unfold allowsVersion Permits
  cases policy.pattern with
  | some pattern => exact Iff.rfl
  | none =>
    have hmetadata : (policy.useMetadata || !t.version.hasMetadata) = true ↔
        (t.version.hasMetadata = true → policy.useMetadata = true) := by
      cases policy.useMetadata <;> cases t.version.hasMetadata <;> decide
    simp only [Bool.and_eq_true, pinHolds_iff, hmetadata, and_assoc]

/-! ### The selection -/

theorem latestVersion?_isPick {policy : Policy} {tags : List ImageTag} {r : ImageTag}
    (h : policy.latestVersion? tags = some r) :
    IsPick laterVersion (tags.filter policy.allowsVersion) r :=
  pickBest_isPick laterVersion_self laterVersion_trans h

/-- Nothing is selected exactly if there is no candidate.  A tag that is selected is a candidate,
    no candidate has a later version, none of the same text was made later, and those of the same
    text that stand before it in the list were made earlier. -/
theorem latestVersion?_maximal (policy : Policy) (tags : List ImageTag) :
    (policy.latestVersion? tags = none ↔ ∀ t ∈ tags, ¬ policy.Permits t) ∧
    ∀ r, policy.latestVersion? tags = some r →
      ∃ before after, tags = before ++ r :: after ∧ policy.Permits r ∧
        (∀ t ∈ tags, policy.Permits t → r.version.lessThan t.version = false) ∧
        (∀ t ∈ tags, policy.Permits t → t.tag = r.tag → r.created.before t.created = false) ∧
        (∀ t ∈ before, policy.Permits t → t.tag = r.tag → t.created.before r.created = true) := by
  refine ⟨?_, ?_⟩
  · unfold latestVersion?
    rw [pickBest_eq_none_iff, List.filter_eq_nil_iff]
    simp only [allowsVersion_iff]
  · intro r hr
    have hpick := latestVersion?_isPick hr
    -- a candidate with a later version, or one made later, would be better
    have hbest (t : ImageTag) (ht : t ∈ tags) (hpermits : policy.Permits t) :
        ¬ (r.version.lessThan t.version = true ∨
          (r.tag = t.tag ∧ r.created.before t.created = true)) := by
      have hcandidate : t ∈ tags.filter policy.allowsVersion :=
        List.mem_filter.mpr ⟨ht, (policy.allowsVersion_iff t).mpr hpermits⟩
      rw [← laterVersion_iff, hpick.best t hcandidate]
      exact Bool.false_ne_true
    have htime (t : ImageTag) (ht : t ∈ tags) (hpermits : policy.Permits t) (htag : t.tag = r.tag) :
        r.created.before t.created = false := by
      rw [Bool.eq_false_iff]
      intro hbefore
      exact hbest t ht hpermits (Or.inr ⟨htag.symm, hbefore⟩)
    obtain ⟨before, after, hcandidates, hearlier⟩ := hpick.first
    obtain ⟨front, rest, htags, hfront, hrest⟩ := List.filter_eq_append_iff.mp hcandidates
    obtain ⟨skipped, back, hback, hskipped, hallowed, -⟩ := List.filter_eq_cons_iff.mp hrest
    refine ⟨front ++ skipped, back, ?_, (policy.allowsVersion_iff r).mp hallowed, ?_, htime, ?_⟩
    · rw [htags, hback, List.append_assoc]
    · intro t ht hpermits
      rw [Bool.eq_false_iff]
      intro hless
      exact hbest t ht hpermits (Or.inl hless)
    · intro t ht hpermits htag
      have hmem : t ∈ tags := by
        rw [htags, hback, ← List.append_assoc]
        exact List.mem_append_left _ ht
      have hallowedt := (policy.allowsVersion_iff t).mpr hpermits
      rcases List.mem_append.mp ht with ht | ht
      · -- a tag with the same text and time could not be told apart from the selected one
        obtain ⟨kept, hkept, hkeptt⟩ :=
          hearlier t (hfront ▸ List.mem_filter.mpr ⟨ht, hallowedt⟩)
        apply Instant.before_of_ne
        · intro hcreated
          have hversion : t.version = r.version := congrArg TagVersion.parse htag
          rw [laterVersion_iff] at hkept
          rw [← hversion, ← htag, ← hcreated, ← laterVersion_iff, hkeptt] at hkept
          cases hkept
        · exact htime t hmem hpermits htag
      · exact absurd hallowedt (hskipped t ht)

end AnyEngine

/-- A tag that a registry reports with the second of its making. -/
def taggedAt (seconds : Int) (tag digest : String) : ImageTag :=
  { ImageTag.ofDigest tag digest with created := ⟨seconds, 0⟩ }

/-- Tags of which the latest release is listed three times, twice with one time. -/
def repeatedTags : List ImageTag :=
  [taggedAt 3 "1.9" "a", taggedAt 5 "1.10" "b", taggedAt 7 "2.0-rc1" "c",
    taggedAt 8 "1.10" "d", taggedAt 8 "1.10" "e"]

theorem latestVersion?_maximal_repeatedTags :
    ∃ before after, repeatedTags = before ++ taggedAt 8 "1.10" "d" :: after ∧
      Policy.empty.Permits (taggedAt 8 "1.10" "d") ∧
      (∀ t ∈ repeatedTags, Policy.empty.Permits t →
        (taggedAt 8 "1.10" "d").version.lessThan t.version = false) := by
  obtain ⟨before, after, htags, hpermits, hbest, -⟩ :=
    (latestVersion?_maximal .empty repeatedTags).2 (taggedAt 8 "1.10" "d") (by decide)
  exact ⟨before, after, htags, hpermits, hbest⟩

end Policy

end ImageFreshness
