import ImageFreshness.Check.Verdict
import ImageFreshness.Pattern.Compile
import ImageFreshness.Proofs.SelectionOrder

/-!
# What a verdict from versions says

A verdict compares the running version with the selected one only.  What follows from it for the
other candidates rests on the order: a version that is below a candidate is below the selected one
as well, unless the selected version has metadata and the two others have none, or the other way
round (`TagVersion.lessThan_or_of_not_lessThan`).

So where versions with metadata are no candidates, a container runs the latest version exactly if
no candidate has a later one, and its tag has not been published again.
-/

namespace ImageFreshness

open Std

namespace TagVersion

variable {c r t : TagVersion}

theorem tag_ne_empty_of_not_lessThan (h : r.lessThan t = false) (ht : t.tag ≠ "") :
    r.tag ≠ "" := by
  intro hempty
  rw [(lessThan_iff r t).mpr (Or.inl ⟨hempty, ht⟩)] at h
  cases h

/-- If metadata does not keep `t` from being above `r`, nor `r` from being above `c`, only the parts
    count. -/
theorem compareParts_lt_of_not_lessThan (hparts : compareParts c t = .lt) (ht : t.tag ≠ "")
    (hrt : r.lessThan t = false) (htr : t.hasMetadata = true → r.hasMetadata = true) :
    compareParts c r = .lt := by
  have hr := tag_ne_empty_of_not_lessThan hrt ht
  have hge : compareParts r t ≠ .lt := by
    intro hlt
    rw [(lessThan_iff_compareParts hr ht htr).mpr hlt] at hrt
    cases hrt
  have hle : (compareParts t r).isLE = true := by
    rw [@OrientedCmp.eq_swap _ compareParts _ t r, Ordering.isLE_swap, Ordering.isGE_iff_ne_lt]
    exact hge
  exact TransCmp.lt_of_lt_of_isLE hparts hle

/-- What is below `t` is below every version that is not, unless this one alone of the three has
    metadata, or alone has none. -/
theorem lessThan_or_of_not_lessThan (hct : c.lessThan t = true) (hrt : r.lessThan t = false) :
    c.lessThan r = true ∨ (t.hasMetadata = c.hasMetadata ∧ r.hasMetadata ≠ c.hasMetadata) := by
  rcases (lessThan_iff c t).mp hct with ⟨hc, ht⟩ | ⟨hc, ht, htc, hparts⟩
  · exact Or.inl ((lessThan_iff c r).mpr (Or.inl ⟨hc, tag_ne_empty_of_not_lessThan hrt ht⟩))
  · have hr := tag_ne_empty_of_not_lessThan hrt ht
    by_cases hrc : r.hasMetadata = true → c.hasMetadata = true
    · by_cases htr : t.hasMetadata = true → r.hasMetadata = true
      · exact Or.inl ((lessThan_iff_compareParts hc hr hrc).mpr
          (compareParts_lt_of_not_lessThan hparts ht hrt htr))
      · -- `r` alone has none
        obtain ⟨htmeta, hrmeta⟩ := Classical.not_imp.mp htr
        rw [htc htmeta, htmeta]
        exact Or.inr ⟨rfl, hrmeta⟩
    · -- `r` alone has metadata
      obtain ⟨hrmeta, hcmeta⟩ := Classical.not_imp.mp hrc
      have htmeta : t.hasMetadata = false := Bool.eq_false_iff.mpr fun h => hcmeta (htc h)
      rw [htmeta, hrmeta, Bool.eq_false_iff.mpr hcmeta]
      exact Or.inr ⟨rfl, Bool.noConfusion⟩

end TagVersion

namespace Policy

variable [PatternEngine] {policy : Policy} {tags : List ImageTag} {r : ImageTag} {c : TagVersion}

theorem Topmost.not_lessThan_or (htop : policy.Topmost tags r)
    (hcr : c.lessThan r.version = false) {t : ImageTag} (ht : t ∈ tags)
    (hpermits : policy.Permits t) :
    c.lessThan t.version = false ∨
      (t.version.hasMetadata = c.hasMetadata ∧ r.version.hasMetadata ≠ c.hasMetadata) := by
  by_cases hct : c.lessThan t.version = true
  · rcases TagVersion.lessThan_or_of_not_lessThan hct (htop.top t ht hpermits) with hless | hkinds
    · rw [hcr] at hless
      cases hless
    · exact Or.inr hkinds
  · exact Or.inl (Bool.eq_false_iff.mpr hct)

theorem Permits.hasMetadata_eq_false {t : ImageTag} (h : policy.Permits t)
    (hpattern : policy.pattern = none) (hmetadata : policy.useMetadata = false) :
    t.version.hasMetadata = false := by
  rw [Permits, hpattern] at h
  rw [Bool.eq_false_iff]
  intro hhas
  have huse := h.1 hhas
  rw [hmetadata] at huse
  cases huse

/-- Without candidates that have metadata, one comparison with a topmost candidate is as good as
    comparisons with all of them. -/
theorem Topmost.not_lessThan_iff (htop : policy.Topmost tags r) (hpattern : policy.pattern = none)
    (hmetadata : policy.useMetadata = false) :
    c.lessThan r.version = false ↔
      ∀ t ∈ tags, policy.Permits t → c.lessThan t.version = false := by
  constructor
  · intro hcr t ht hpermits
    rcases htop.not_lessThan_or hcr ht hpermits with hless | ⟨htc, hrc⟩
    · exact hless
    · have hplain := hpermits.hasMetadata_eq_false hpattern hmetadata
      have hplain' := htop.permits.hasMetadata_eq_false hpattern hmetadata
      exact absurd (hplain'.trans (hplain.symm.trans htc)) hrc
  · intro hall
    exact hall r htop.mem htop.permits

theorem exists_latestVersion? (h : ∃ t ∈ tags, policy.Permits t) :
    ∃ r, policy.latestVersion? tags = some r := by
  obtain ⟨t, ht, hpermits⟩ := h
  rw [← Option.ne_none_iff_exists', latestVersion?, ne_eq, pickBest_eq_none_iff]
  exact List.ne_nil_of_mem (mem_candidates.mpr ⟨ht, hpermits⟩)

end Policy

/-! ### Verdicts -/

namespace Verdict

theorem isRepublished_iff (latest : ImageTag) (running : RunningTag) (digest : String) :
    isRepublished latest running digest = true ↔
      latest.tag = running.tag ∧ latest.digest ≠ "" ∧ latest.digest ≠ digest := by
  rw [isRepublished, decide_eq_true_eq, eq_comm]

theorem byVersion_isLatest_iff (latest : ImageTag) (running : RunningTag)
    (digest imageUrl : String) :
    (byVersion latest running digest imageUrl).isLatest = true ↔
      (TagVersion.parse running.tag).lessThan latest.version = false ∧
        ¬ isRepublished latest running digest = true := by
  simp [byVersion]

end Verdict

namespace Subject

section AnyEngine

variable [PatternEngine] {s : Subject} {running : RunningTag} {tags : List ImageTag}

theorem judge_eq_byVersion {r : ImageTag} (hmode : s.comparesDigests running = false)
    (hr : s.policy.latestVersion? tags = some r) :
    s.judge running tags = .ok (.byVersion r running s.runningDigest s.lookupUrl) := by
  simp [judge, hmode, hr]

theorem exists_of_judge {v : Verdict} (hmode : s.comparesDigests running = false)
    (hv : s.judge running tags = .ok v) :
    ∃ r, s.policy.latestVersion? tags = some r ∧
      v = .byVersion r running s.runningDigest s.lookupUrl := by
  cases hr : s.policy.latestVersion? tags with
  | none => simp [judge, hmode, hr] at hv
  | some r =>
    rw [judge_eq_byVersion hmode hr] at hv
    cases hv
    exact ⟨r, rfl, rfl⟩

/-- No candidate has a later version than one that is latest, apart from this: where the selected
    version has metadata and the running one has none, or the other way round, candidates of the
    kind of the running one do not count.  Without candidates that have metadata there is no such
    exception. -/
theorem isLatest_unless_other_kind (hmode : s.comparesDigests running = false) {v : Verdict}
    (hv : s.judge running tags = .ok v) (hlatest : v.isLatest = true) :
    (∃ r, s.policy.latestVersion? tags = some r ∧
      ∀ t ∈ tags, s.policy.Permits t →
        (TagVersion.parse running.tag).lessThan t.version = false ∨
          (t.version.hasMetadata = (TagVersion.parse running.tag).hasMetadata ∧
            r.version.hasMetadata ≠ (TagVersion.parse running.tag).hasMetadata)) ∧
    (s.policy.pattern = none → s.policy.useMetadata = false →
      ∀ t ∈ tags, s.policy.Permits t →
        (TagVersion.parse running.tag).lessThan t.version = false) := by
  obtain ⟨r, hr, rfl⟩ := exists_of_judge hmode hv
  obtain ⟨hbelow, -⟩ := (Verdict.byVersion_isLatest_iff r running _ _).mp hlatest
  have htop := Policy.topmost_of_latestVersion? hr
  refine ⟨⟨r, hr, fun t ht hpermits => htop.not_lessThan_or hbelow ht hpermits⟩, ?_⟩
  intro hpattern hmetadata
  exact (htop.not_lessThan_iff hpattern hmetadata).mp hbelow

end AnyEngine

/-- A container that runs an image with a digest of its own. -/
def ofImage (policy : Policy) (image : String) : Subject :=
  let container : Container := ⟨"app", image⟩
  ⟨⟨⟨"web", "default", []⟩, ⟨[container], []⟩, ⟨[⟨"app", "nginx@sha256:run"⟩], []⟩⟩, container,
    policy⟩

/-- A container for which versions with metadata are candidates too. -/
def withPrereleases (image : String) : Subject :=
  ofImage { Policy.empty with useMetadata := true } image

theorem isLatest_unless_other_kind_prereleases :
    let s := withPrereleases "nginx:1.10.0"
    let tags := [ImageTag.ofDigest "1.9.0" "a", .ofDigest "1.10.0" "", .ofDigest "1.10.0-rc2" "c"]
    ∃ v, s.judge (.declared s.image) tags = .ok v ∧ v.isLatest = true ∧
      ∃ r, s.policy.latestVersion? tags = some r ∧
        ∀ t ∈ tags, s.policy.Permits t →
          (TagVersion.parse s.image.tag).lessThan t.version = false ∨
            (t.version.hasMetadata = (TagVersion.parse s.image.tag).hasMetadata ∧
              r.version.hasMetadata ≠ (TagVersion.parse s.image.tag).hasMetadata) := by
  intro s tags
  have hmode : s.comparesDigests (.declared s.image) = false := by decide +kernel
  have hv : s.judge (.declared s.image) tags =
      .ok ⟨"1.10.0", "1.10.0", true, "nginx"⟩ := by decide +kernel
  exact ⟨_, hv, rfl, (isLatest_unless_other_kind hmode hv rfl).1⟩

/-- A container runs one prerelease, and a later one is listed.  The release that is selected is not
    above either of them. -/
theorem isLatest_below_later_prerelease :
    ¬ ∀ (s : Subject) (running : RunningTag) (tags : List ImageTag) (v : Verdict),
      s.comparesDigests running = false → s.judge running tags = .ok v → v.isLatest = true →
        ∀ t ∈ tags, s.policy.Permits t →
          (TagVersion.parse running.tag).lessThan t.version = false := by
  intro hall
  let s := withPrereleases "nginx:2.0.0-rc1"
  let tags := [ImageTag.ofDigest "1.0.0" "a", .ofDigest "2.0.0-rc2" "b"]
  have hv : s.judge (.declared s.image) tags =
      .ok ⟨"2.0.0-rc1", "1.0.0", true, "nginx"⟩ := by decide +kernel
  have hpermits : s.policy.Permits (.ofDigest "2.0.0-rc2" "b") :=
    (s.policy.allowsVersion_iff _).mp (by decide)
  have hless := hall s (.declared s.image) tags _ (by decide +kernel) hv rfl _ (by decide) hpermits
  revert hless
  decide +kernel

section AnyEngine

variable [PatternEngine] {s : Subject} {running : RunningTag} {tags : List ImageTag}

/-- Where versions with metadata are no candidates, a running version is latest exactly if no
    candidate has a later one, and the selected tag is not the running one with another digest. -/
theorem judge_isLatest_iff (hpattern : s.policy.pattern = none)
    (hmetadata : s.policy.useMetadata = false) (hdigest : s.policy.useDigest = false)
    (hempty : running.tag ≠ "") (hfloating : running.tag ≠ "latest")
    (hcandidate : ∃ t ∈ tags, s.policy.Permits t) :
    ∃ r v, s.policy.latestVersion? tags = some r ∧ s.judge running tags = .ok v ∧
      (v.isLatest = true ↔
        (∀ t ∈ tags, s.policy.Permits t →
          (TagVersion.parse running.tag).lessThan t.version = false) ∧
        ¬ (r.tag = running.tag ∧ r.digest ≠ "" ∧ r.digest ≠ s.runningDigest)) ∧
      (r.tag = running.tag ∧ r.digest ≠ "" ∧ r.digest ≠ s.runningDigest →
        v.latestVersion = r.tag ++ "@" ++ r.digest) ∧
      (¬ (r.tag = running.tag ∧ r.digest ≠ "" ∧ r.digest ≠ s.runningDigest) →
        v.latestVersion = r.tag) := by
  obtain ⟨r, hr⟩ := Policy.exists_latestVersion? hcandidate
  have hmode : s.comparesDigests running = false := by
    simp [comparesDigests, hdigest, hempty, hfloating, RunningTag.floating]
  have hrepublished := Verdict.isRepublished_iff r running s.runningDigest
  refine ⟨r, _, hr, judge_eq_byVersion hmode hr, ?_, ?_, ?_⟩
  · rw [Verdict.byVersion_isLatest_iff, hrepublished,
      (Policy.topmost_of_latestVersion? hr).not_lessThan_iff hpattern hmetadata]
  · intro h
    simp [Verdict.byVersion, hrepublished.mpr h]
  · intro h
    simp [Verdict.byVersion, Bool.eq_false_iff.mpr (mt hrepublished.mp h)]

end AnyEngine

theorem judge_isLatest_iff_republished :
    let s := ofImage { Policy.empty with pinMajor := some 1 } "nginx:v1.1"
    let tags := [ImageTag.ofDigest "v1.1" "sha256:new", .ofDigest "1.1.0" "b",
      .ofDigest "2.0.0" "c"]
    ∃ r v, s.policy.latestVersion? tags = some r ∧ s.judge (.declared s.image) tags = .ok v ∧
      (v.isLatest = true ↔
        (∀ t ∈ tags, s.policy.Permits t →
          (TagVersion.parse s.image.tag).lessThan t.version = false) ∧
        ¬ (r.tag = s.image.tag ∧ r.digest ≠ "" ∧ r.digest ≠ s.runningDigest)) := by
  intro s tags
  have hcandidate : ∃ t ∈ tags, s.policy.Permits t :=
    ⟨.ofDigest "1.1.0" "b", by decide, (s.policy.allowsVersion_iff _).mp (by decide)⟩
  have htag : s.image.tag = "v1.1" := by decide +kernel
  have htext : (RunningTag.declared s.image).tag = "v1.1" := htag
  obtain ⟨r, v, hr, hv, hexact, -⟩ := @judge_isLatest_iff _ s (.declared s.image) tags rfl rfl rfl
    (by rw [htext]; decide) (by rw [htext]; decide) hcandidate
  exact ⟨r, v, hr, hv, hexact⟩

end Subject

end ImageFreshness
