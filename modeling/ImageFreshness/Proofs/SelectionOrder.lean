import ImageFreshness.Pattern.Compile
import ImageFreshness.Proofs.VersionSelection
import Mathlib.Data.List.Nodup

/-!
# When the order of the tags matters

The version of a tag is compared by a partial order, so several candidates may be topmost: none of
the others has a later version.  They are two spellings of one version (`1.0` and `v1.0`), or one of
them has metadata and another has none.  Which of them is selected depends on the order in which
the tags are listed: each of them is, if it stands first (`exists_perm_latestVersion?_iff`).

So the order does not matter exactly if no two candidates are topmost.
-/

namespace ImageFreshness

/-! ### Keeping the best, in any order -/

section PickBest

variable {α : Type} {better : α → α → Bool}

/-- An element of a list that no other is better than. -/
structure Unbeaten (better : α → α → Bool) (xs : List α) (r : α) : Prop where
  mem : r ∈ xs
  best : ∀ x ∈ xs, better r x = false

theorem IsPick.unbeaten {xs : List α} {r : α} (h : IsPick better xs r) : Unbeaten better xs r := by
  obtain ⟨before, after, hxs, -⟩ := h.first
  exact ⟨by simp [hxs], h.best⟩

theorem keepBest_of_best {xs : List α} {r : α} (h : ∀ x ∈ xs, better r x = false) :
    keepBest better r xs = r := by
  induction xs with
  | nil => rfl
  | cons x xs ih =>
    have hx : better r x = false := h x List.mem_cons_self
    have hxs := ih fun y hy => h y (List.mem_cons_of_mem x hy)
    simpa [keepBest, hx] using hxs

/-- An element that no other is better than is kept if it comes first. -/
theorem pickBest_cons_of_best {xs : List α} {r : α} (h : ∀ x ∈ xs, better r x = false) :
    pickBest better (r :: xs) = some r := by
  rw [pickBest_cons, keepBest_of_best h]

end PickBest

namespace Policy

section AnyEngine

variable [PatternEngine] {policy : Policy} {tags : List ImageTag}

/-! ### Topmost candidates -/

/-- A candidate such that no candidate has a later version. -/
structure Topmost (policy : Policy) (tags : List ImageTag) (r : ImageTag) : Prop where
  mem : r ∈ tags
  permits : policy.Permits r
  top : ∀ t ∈ tags, policy.Permits t → r.version.lessThan t.version = false

theorem mem_candidates {t : ImageTag} :
    t ∈ tags.filter policy.allowsVersion ↔ t ∈ tags ∧ policy.Permits t := by
  rw [List.mem_filter, allowsVersion_iff]

/-- What cannot be bettered among the candidates is topmost. -/
theorem topmost_of_unbeaten {r : ImageTag}
    (h : Unbeaten laterVersion (tags.filter policy.allowsVersion) r) : policy.Topmost tags r := by
  obtain ⟨hmem, hpermits⟩ := mem_candidates.mp h.mem
  refine ⟨hmem, hpermits, ?_⟩
  intro t ht hallowed
  have hbest := h.best t (mem_candidates.mpr ⟨ht, hallowed⟩)
  rw [laterVersion, Bool.or_eq_false_iff] at hbest
  exact hbest.1

theorem topmost_of_latestVersion? {r : ImageTag} (h : policy.latestVersion? tags = some r) :
    policy.Topmost tags r :=
  topmost_of_unbeaten (latestVersion?_isPick h).unbeaten

/-- Among tags with different texts, only a later version is better. -/
theorem Topmost.best (hdistinct : (tags.map ImageTag.tag).Nodup) {r : ImageTag}
    (h : policy.Topmost tags r) {t : ImageTag} (ht : t ∈ tags) (hpermits : policy.Permits t) :
    laterVersion r t = false := by
  rw [Bool.eq_false_iff, ne_eq, laterVersion_iff]
  rintro (hless | ⟨htag, hbefore⟩)
  · rw [h.top t ht hpermits] at hless
    cases hless
  · obtain rfl : r = t := List.inj_on_of_nodup_map hdistinct h.mem ht htag
    rw [Instant.before_self] at hbefore
    cases hbefore

theorem Topmost.perm {tags' : List ImageTag} {r : ImageTag} (h : policy.Topmost tags' r)
    (hperm : tags'.Perm tags) : policy.Topmost tags r :=
  ⟨hperm.mem_iff.mp h.mem, h.permits, fun t ht => h.top t (hperm.mem_iff.mpr ht)⟩

/-! ### Selections from the same tags in another order -/

theorem latestVersion?_eq_none_perm {tags' : List ImageTag} (hperm : tags'.Perm tags) :
    policy.latestVersion? tags' = none ↔ policy.latestVersion? tags = none := by
  have hcandidates := hperm.filter policy.allowsVersion
  unfold latestVersion?
  rw [pickBest_eq_none_iff, pickBest_eq_none_iff]
  constructor
  · intro hnil
    exact (hnil ▸ hcandidates).nil_eq.symm
  · intro hnil
    exact (hnil ▸ hcandidates).eq_nil

/-- The tags that are selected in some order are the topmost candidates. -/
theorem exists_perm_latestVersion?_iff (hdistinct : (tags.map ImageTag.tag).Nodup)
    (r : ImageTag) :
    (∃ tags', tags'.Perm tags ∧ policy.latestVersion? tags' = some r) ↔ policy.Topmost tags r := by
  constructor
  · rintro ⟨tags', hperm, hr⟩
    exact (topmost_of_latestVersion? hr).perm hperm
  · intro htop
    obtain ⟨front, back, htags⟩ := List.append_of_mem htop.mem
    refine ⟨r :: (front ++ back), htags ▸ List.perm_middle.symm, ?_⟩
    have hallowed : policy.allowsVersion r = true := (policy.allowsVersion_iff r).mpr htop.permits
    rw [latestVersion?, List.filter_cons_of_pos hallowed]
    refine pickBest_cons_of_best fun t ht => ?_
    obtain ⟨hmem, hpermits⟩ := mem_candidates.mp ht
    have hlisted : t ∈ tags := by
      rw [htags]
      exact List.perm_middle.mem_iff.mpr (List.mem_cons_of_mem r hmem)
    exact htop.best hdistinct hlisted hpermits

/-- The order of tags with different texts does not matter exactly if no two candidates are
    topmost. -/
theorem latestVersion?_perm_iff (policy : Policy) (tags : List ImageTag)
    (hdistinct : (tags.map ImageTag.tag).Nodup) :
    (∀ tags', tags'.Perm tags → policy.latestVersion? tags' = policy.latestVersion? tags) ↔
      ∀ r r', policy.Topmost tags r → policy.Topmost tags r' → r = r' := by
  constructor
  · intro hsame r r' htop htop'
    obtain ⟨first, hfirst, hr⟩ := (exists_perm_latestVersion?_iff hdistinct r).mpr htop
    obtain ⟨second, hsecond, hr'⟩ := (exists_perm_latestVersion?_iff hdistinct r').mpr htop'
    rw [hsame first hfirst] at hr
    rw [hsame second hsecond, hr] at hr'
    exact Option.some.inj hr'
  · intro hunique tags' hperm
    cases hr' : policy.latestVersion? tags' with
    | none => exact ((latestVersion?_eq_none_perm hperm).mp hr').symm
    | some r' =>
      cases hr : policy.latestVersion? tags with
      | none =>
        rw [(latestVersion?_eq_none_perm hperm).mpr hr] at hr'
        cases hr'
      | some r =>
        have htop' := (topmost_of_latestVersion? hr').perm hperm
        rw [hunique r' r htop' (topmost_of_latestVersion? hr)]

end AnyEngine

/-- Releases, and a candidate for one of them. -/
def releaseTags : List ImageTag :=
  [.ofDigest "v1.0.0" "a", .ofDigest "v1.1.0" "b", .ofDigest "v1.1.1-alpha" "c",
    .ofDigest "v1.1.1" "d", .ofDigest "v2.0.0" "e"]

theorem latestVersion?_perm_iff_releaseTags :
    (releaseTags.map ImageTag.tag).Nodup ∧
    ∀ tags', tags'.Perm releaseTags →
      Policy.empty.latestVersion? tags' = some (.ofDigest "v2.0.0" "e") := by
  have hdistinct : (releaseTags.map ImageTag.tag).Nodup := by decide
  have hbelow : ∀ t ∈ releaseTags, Policy.empty.allowsVersion t = true →
      t.version.lessThan (TagVersion.parse "v2.0.0") = false → t = .ofDigest "v2.0.0" "e" := by
    decide
  have hlatest (r : ImageTag) (htop : Policy.empty.Topmost releaseTags r) :
      r = .ofDigest "v2.0.0" "e" :=
    hbelow r htop.mem ((allowsVersion_iff _ r).mpr htop.permits)
      (htop.top (.ofDigest "v2.0.0" "e") (by decide) ((allowsVersion_iff _ _).mp (by decide)))
  refine ⟨hdistinct, fun tags' hperm => ?_⟩
  have hunique := (latestVersion?_perm_iff .empty releaseTags hdistinct).mpr
    fun r r' htop htop' => (hlatest r htop).trans (hlatest r' htop').symm
  rw [hunique tags' hperm]
  decide

/-- Two spellings of one version: the one that is listed first is selected. -/
theorem latestVersion?_depends_on_order :
    ¬ ∀ (policy : Policy) (tags tags' : List ImageTag), (tags.map ImageTag.tag).Nodup →
      tags'.Perm tags → policy.latestVersion? tags' = policy.latestVersion? tags := by
  intro hsame
  have hspellings := hsame .empty [.ofDigest "1.0.0" "a", .ofDigest "v1.0.0" "b"]
    [.ofDigest "v1.0.0" "b", .ofDigest "1.0.0" "a"] (by decide) (List.Perm.swap _ _ _)
  revert hspellings
  decide

end Policy

end ImageFreshness
