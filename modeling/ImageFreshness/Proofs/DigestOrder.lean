import ImageFreshness.Pattern.Compile
import ImageFreshness.Proofs.DigestSelection
import ImageFreshness.Proofs.SelectionOrder

/-!
# When the order of the tags matters to a selection by digest

Where digests are compared, what is selected is the first tag in the list that is a candidate and
was made last (`Policy.MadeLast`).  Any of the candidates that were made last is selected if it
stands first (`exists_perm_latestDigest?`), so the order of the list does not matter exactly if they
are all the same (`Policy.latestDigest?_eq_first_madeLast`).
-/

namespace ImageFreshness

theorem Instant.before_asymm {a b : Instant} (h : a.before b = true) : b.before a = false := by
  rw [Bool.eq_false_iff, ne_eq, before_iff]
  rw [before_iff] at h
  omega

namespace Policy

section AnyEngine

variable [PatternEngine] {policy : Policy} {tags tags' : List ImageTag} {t r : ImageTag}

instance (policy : Policy) (t : ImageTag) : Decidable (policy.Eligible t) :=
  decidable_of_iff _ (policy.allowsDigest_iff t)

/-- A candidate such that none was made later. -/
structure MadeLast (policy : Policy) (tags : List ImageTag) (t : ImageTag) : Prop where
  mem : t ∈ tags
  eligible : policy.Eligible t
  last : ∀ u ∈ tags, policy.Eligible u → t.created.before u.created = false

theorem madeLast_iff (policy : Policy) (tags : List ImageTag) (t : ImageTag) :
    (t ∈ tags ∧ policy.Eligible t ∧
      ∀ u ∈ tags, policy.Eligible u → t.created.before u.created = false) ↔
      policy.MadeLast tags t := by
  constructor
  · rintro ⟨hmem, heligible, hlast⟩
    exact ⟨hmem, heligible, hlast⟩
  · intro h
    exact ⟨h.mem, h.eligible, h.last⟩

instance (policy : Policy) (tags : List ImageTag) (t : ImageTag) :
    Decidable (policy.MadeLast tags t) :=
  decidable_of_iff _ (policy.madeLast_iff tags t)

theorem MadeLast.perm (h : policy.MadeLast tags' t) (hperm : tags'.Perm tags) :
    policy.MadeLast tags t := by
  refine ⟨hperm.mem_iff.mp h.mem, h.eligible, ?_⟩
  intro u hu
  exact h.last u (hperm.mem_iff.mpr hu)

/-! ### The first of the candidates that were made last -/

namespace FirstLatest

variable {before after : List ImageTag}

theorem madeLast (h : policy.FirstLatest before r after) :
    policy.MadeLast (before ++ r :: after) r := by
  refine ⟨by simp, h.eligible, ?_⟩
  intro u hu heligible
  rcases List.mem_append.mp hu with hu | hu
  · exact Instant.before_asymm (h.earlier u hu heligible)
  · rcases List.mem_cons.mp hu with rfl | hu
    · exact Instant.before_self _
    · exact h.noLater u hu heligible

theorem not_madeLast (h : policy.FirstLatest before r after) (ht : t ∈ before) :
    ¬ policy.MadeLast (before ++ r :: after) t := by
  intro hlast
  have hnot := hlast.last r (by simp) h.eligible
  rw [h.earlier t ht hlast.eligible] at hnot
  cases hnot

end FirstLatest

theorem latestDigest?_eq_none_iff (policy : Policy) (tags : List ImageTag) :
    policy.latestDigest? tags = none ↔ ∀ t ∈ tags, ¬ policy.Eligible t := by
  unfold latestDigest?
  rw [pickBest_eq_none_iff, List.filter_eq_nil_iff]
  simp only [allowsDigest_iff]

theorem latestDigest?_eq_find? (policy : Policy) (tags : List ImageTag) :
    policy.latestDigest? tags = tags.find? fun t => policy.MadeLast tags t := by
  cases hr : policy.latestDigest? tags with
  | none =>
    rw [latestDigest?_eq_none_iff] at hr
    symm
    rw [List.find?_eq_none]
    intro t ht hlast
    exact hr t ht (of_decide_eq_true hlast).eligible
  | some r =>
    obtain ⟨before, after, htags, hfirst⟩ := latestDigest?_firstLatest hr
    rw [htags]
    symm
    rw [List.find?_eq_some_iff_append]
    refine ⟨decide_eq_true hfirst.madeLast, before, after, rfl, ?_⟩
    intro t ht
    rw [Bool.not_eq_true', decide_eq_false_iff_not]
    exact hfirst.not_madeLast ht

theorem madeLast_of_latestDigest? (h : policy.latestDigest? tags = some r) :
    policy.MadeLast tags r := by
  rw [latestDigest?_eq_find?] at h
  simpa using List.find?_some h

/-! ### The same tags in another order -/

/-- A candidate that was made last is selected if it stands first. -/
theorem exists_perm_latestDigest? (h : policy.MadeLast tags r) :
    ∃ tags', tags'.Perm tags ∧ policy.latestDigest? tags' = some r := by
  obtain ⟨front, back, rfl⟩ := List.append_of_mem h.mem
  have hperm : (r :: (front ++ back)).Perm (front ++ r :: back) := List.perm_middle.symm
  have hfirst : policy.MadeLast (r :: (front ++ back)) r := h.perm hperm.symm
  refine ⟨r :: (front ++ back), hperm, ?_⟩
  rw [latestDigest?_eq_find?, List.find?_cons_of_pos (by simpa using hfirst)]

/-- What is selected is the first tag in the list that is a candidate and was made last, and nothing
    exactly if there is no candidate.  If there is one, the same tag is selected from every order of
    the list exactly if all candidates that were made last are the same. -/
theorem latestDigest?_eq_first_madeLast (policy : Policy) (tags : List ImageTag) :
    (policy.latestDigest? tags = tags.find? fun t => policy.MadeLast tags t) ∧
    (policy.latestDigest? tags = none ↔ ∀ t ∈ tags, ¬ policy.Eligible t) ∧
    ((∃ t ∈ tags, policy.Eligible t) →
      ((∃ r, ∀ tags', tags'.Perm tags → policy.latestDigest? tags' = some r) ↔
        ∀ a b, policy.MadeLast tags a → policy.MadeLast tags b → a = b)) := by
  refine ⟨latestDigest?_eq_find? policy tags, latestDigest?_eq_none_iff policy tags, ?_⟩
  rintro ⟨t, ht, heligible⟩
  constructor
  · rintro ⟨r, hsame⟩ a b ha hb
    have hselected {c : ImageTag} (hc : policy.MadeLast tags c) : c = r := by
      obtain ⟨tags', hperm, hc⟩ := exists_perm_latestDigest? hc
      rw [hsame tags' hperm, Option.some.injEq] at hc
      exact hc.symm
    exact (hselected ha).trans (hselected hb).symm
  · intro hunique
    have hfound {tags' : List ImageTag} (hperm : tags'.Perm tags) :
        ∃ r, policy.latestDigest? tags' = some r := by
      apply Option.ne_none_iff_exists'.mp
      intro hnone
      exact (latestDigest?_eq_none_iff policy tags').mp hnone t (hperm.mem_iff.mpr ht) heligible
    obtain ⟨r, hr⟩ := hfound (List.Perm.refl tags)
    refine ⟨r, ?_⟩
    intro tags' hperm
    obtain ⟨r', hr'⟩ := hfound hperm
    have hlast := (madeLast_of_latestDigest? hr').perm hperm
    rw [hr', hunique r' r hlast (madeLast_of_latestDigest? hr)]

end AnyEngine

/-- An image that is listed twice, between an older one and the signature of it. -/
def twiceListedTags : List ImageTag :=
  [taggedAt 3 "1.0" "a", taggedAt 5 "1.1" "b", taggedAt 9 "1.1.sig" "s", taggedAt 5 "1.1" "b"]

theorem latestDigest?_eq_first_madeLast_twiceListedTags :
    (∃ t ∈ twiceListedTags, Policy.empty.Eligible t) ∧
    ∃ r, ∀ tags', tags'.Perm twiceListedTags → Policy.empty.latestDigest? tags' = some r := by
  have hcandidate : ∃ t ∈ twiceListedTags, Policy.empty.Eligible t := by decide
  have hsame : ∀ t ∈ twiceListedTags, Policy.empty.MadeLast twiceListedTags t →
      t = taggedAt 5 "1.1" "b" := by decide
  refine ⟨hcandidate, ?_⟩
  apply ((latestDigest?_eq_first_madeLast .empty twiceListedTags).2.2 hcandidate).mpr
  intro a b ha hb
  rw [hsame a ha.mem ha, hsame b hb.mem hb]

end Policy

end ImageFreshness
