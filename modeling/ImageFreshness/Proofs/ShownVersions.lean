import ImageFreshness.Pattern.Compile
import ImageFreshness.Proofs.DigestSelection

/-!
# The versions that a verdict shows

A verdict shows a tag alone, a digest alone, or both with an `@` between them.  Where neither tags
nor digests hold that sign, the parts can be read off (`append_at_inj`), so it can be said when the
two versions of a verdict are the same text.

Of a container that is outdated by digest they never are.  By version they are the same in one case:
the container is declared with the digest that its tag points to, but runs another one
(`Subject.check_versions_eq_iff`).
-/

namespace ImageFreshness

/-! ### Tags with digests -/

/-- A text without the sign that stands between a tag and its digest. -/
def Unmarked (text : String) : Prop := '@' ∉ text.toList

instance (text : String) : Decidable (Unmarked text) :=
  inferInstanceAs (Decidable ('@' ∉ text.toList))

theorem toList_append_at (tag digest : String) :
    (tag ++ "@" ++ digest).toList = tag.toList ++ '@' :: digest.toList := by
  simp

theorem not_unmarked_append_at (tag digest : String) : ¬ Unmarked (tag ++ "@" ++ digest) := by
  rw [Unmarked, toList_append_at]
  simp

theorem append_at_inj {tag tag' digest digest' : String} (htag : Unmarked tag)
    (htag' : Unmarked tag') :
    tag ++ "@" ++ digest = tag' ++ "@" ++ digest' ↔ tag = tag' ∧ digest = digest' := by
  constructor
  · intro h
    have hcut := congrArg (fun text : String => Text.cutFirst '@' text.toList) h
    simp only [toList_append_at, Text.cutFirst_append_cons htag,
      Text.cutFirst_append_cons htag', Option.some.injEq, Prod.mk.injEq, String.toList_inj] at hcut
    exact hcut
  · rintro ⟨rfl, rfl⟩
    rfl

namespace Verdict

/-- A tag that may be empty does not hide its digest. -/
theorem digest_eq_of_tagAtDigest {tag tag' digest digest' : String} (htag : Unmarked tag)
    (htag' : Unmarked tag') (hdigest : Unmarked digest) (hdigest' : Unmarked digest')
    (h : tagAtDigest tag digest = tagAtDigest tag' digest') : digest = digest' := by
  unfold tagAtDigest at h
  by_cases hempty : tag = ""
  · rw [if_pos hempty] at h
    by_cases hempty' : tag' = ""
    · rwa [if_pos hempty'] at h
    · rw [if_neg hempty'] at h
      exact absurd (h ▸ hdigest) (not_unmarked_append_at tag' digest')
  · rw [if_neg hempty] at h
    by_cases hempty' : tag' = ""
    · rw [if_pos hempty'] at h
      exact absurd (h ▸ hdigest') (not_unmarked_append_at tag digest)
    · rw [if_neg hempty'] at h
      exact ((append_at_inj htag htag').mp h).2

variable {latest : ImageTag} {running : RunningTag} {digest imageUrl : String}

theorem byDigest_versions_ne
    (houtdated : (byDigest latest running digest imageUrl).isLatest = false)
    (hrunning : Unmarked running.tag) (hdigest : Unmarked digest) (htag : Unmarked latest.tag)
    (hlatest : Unmarked latest.digest) :
    (byDigest latest running digest imageUrl).currentVersion ≠
      (byDigest latest running digest imageUrl).latestVersion := by
  intro hsame
  have hother : latest.digest ≠ digest := by simpa [byDigest] using houtdated
  exact hother (digest_eq_of_tagAtDigest hrunning htag hdigest hlatest hsame).symm

/-- A version that is no longer the latest has been published again exactly if it is the selected
    one. -/
theorem byVersion_isRepublished_iff
    (houtdated : (byVersion latest running digest imageUrl).isLatest = false) :
    isRepublished latest running digest = true ↔ running.tag = latest.tag := by
  constructor
  · intro hrepublished
    exact ((isRepublished_iff latest running digest).mp hrepublished).1.symm
  · intro htag
    by_contra hrepublished
    have hself : (TagVersion.parse running.tag).lessThan latest.version = false := by
      rw [ImageTag.version, ← htag]
      exact TagVersion.lessThan_self _
    have hlatest :=
      (byVersion_isLatest_iff latest running digest imageUrl).mpr ⟨hself, hrepublished⟩
    rw [houtdated] at hlatest
    cases hlatest

theorem byVersion_versions_eq_iff
    (houtdated : (byVersion latest running digest imageUrl).isLatest = false)
    (hrunning : Unmarked running.tag) (htag : Unmarked latest.tag) :
    (byVersion latest running digest imageUrl).currentVersion =
        (byVersion latest running digest imageUrl).latestVersion ↔
      running.tag = latest.tag ∧ running.pin = some latest.digest := by
  have hrepublished := byVersion_isRepublished_iff houtdated
  by_cases hsame : running.tag = latest.tag
  · have hversion : (byVersion latest running digest imageUrl).latestVersion =
        latest.tag ++ "@" ++ latest.digest := by simp [byVersion, hrepublished.mpr hsame]
    rw [hversion, byVersion, RunningTag.text]
    cases running.pin with
    | none =>
      have hne : running.tag ≠ latest.tag ++ "@" ++ latest.digest := fun h =>
        not_unmarked_append_at latest.tag latest.digest (h ▸ hrunning)
      simp [hne]
    | some pinned => rw [append_at_inj hrunning htag, Option.some.injEq]
  · have hversion : (byVersion latest running digest imageUrl).latestVersion = latest.tag := by
      simp [byVersion, mt hrepublished.mp hsame]
    rw [hversion, byVersion, RunningTag.text]
    cases running.pin with
    | none => simp [hsame]
    | some pinned =>
      have hne : running.tag ++ "@" ++ pinned ≠ latest.tag := fun h =>
        not_unmarked_append_at running.tag pinned (h ▸ htag)
      simp [hsame, hne]

end Verdict

/-! ### Checks -/

namespace Subject

section AnyEngine

variable [PatternEngine]

/-- Only a declared tag comes with a digest. -/
theorem MayRun.eq_declared {σ : Type} {service : Service σ} {s : Subject} {running : RunningTag}
    (h : s.MayRun service running) {digest : String} (hpin : running.pin = some digest) :
    running = .declared s.image ∧ s.image.digest ≠ "" ∧ s.image.digest = digest := by
  cases h with
  | declared =>
    refine ⟨rfl, ?_⟩
    by_cases hempty : s.image.digest = ""
    · simp [RunningTag.declared, hempty] at hpin
    · simpa [RunningTag.declared, hempty] using hpin
  | resolved => cases hpin

theorem declared_pin {s : Subject} (hdigest : s.image.digest ≠ "") :
    (RunningTag.declared s.image).pin = some s.image.digest :=
  if_neg hdigest

/-- The versions of a container that is outdated are the same text in this case only: it counts as
    running what it is declared with, which is a tag and a digest; the tag is the selected one, and
    it points to that digest.  So it is another digest that the container runs. -/
theorem check_versions_eq_iff {σ : Type} {service : Service σ} {s : Subject} {token : Token}
    {w : World σ} {v : Verdict} (h : (s.check service token w).1 = .ok (some v))
    (houtdated : v.isLatest = false) :
    ∃ running tags, s.MayRun service running ∧
      Sources.Lists ⟨service, (· = s), w.cache.cache⟩ tags ∧ s.judge running tags = .ok v ∧
      (Unmarked running.tag → Unmarked s.runningDigest →
        (∀ t ∈ tags, Unmarked t.tag ∧ Unmarked t.digest) →
        (v.currentVersion = v.latestVersion ↔
          s.comparesDigests running = false ∧ running = .declared s.image ∧ s.image.digest ≠ "" ∧
            ∃ r, s.policy.latestVersion? tags = some r ∧ r.tag = s.image.tag ∧
              r.digest = s.image.digest ∧ r.digest ≠ s.runningDigest)) := by
  obtain ⟨-, running, tags, hrunning, htags, hv⟩ := check_verdict h
  refine ⟨running, tags, hrunning, htags, hv, fun htag hdigest hunmarked => ?_⟩
  cases hmode : s.comparesDigests running with
  | true =>
    obtain ⟨r, hr, rfl⟩ := exists_of_judge_byDigest hmode hv
    obtain ⟨before, after, hlisted, -⟩ := Policy.latestDigest?_firstLatest hr
    obtain ⟨hrtag, hrdigest⟩ := hunmarked r (by simp [hlisted])
    simp [Verdict.byDigest_versions_ne houtdated htag hdigest hrtag hrdigest]
  | false =>
    obtain ⟨r, hr, rfl⟩ := exists_of_judge hmode hv
    have hrtag := (hunmarked r (Policy.topmost_of_latestVersion? hr).mem).1
    rw [Verdict.byVersion_versions_eq_iff houtdated htag hrtag]
    constructor
    · rintro ⟨hsame, hpin⟩
      obtain ⟨rfl, hempty, hpinned⟩ := hrunning.eq_declared hpin
      refine ⟨rfl, rfl, hempty, r, hr, hsame.symm, hpinned.symm, ?_⟩
      have hrepublished := (Verdict.byVersion_isRepublished_iff houtdated).mpr hsame
      exact ((Verdict.isRepublished_iff r _ _).mp hrepublished).2.2
    · rintro ⟨-, rfl, hempty, r', hr', hsame, hpinned, -⟩
      rw [hr, Option.some.injEq] at hr'
      subst hr'
      exact ⟨hsame.symm, hpinned ▸ declared_pin hempty⟩

end AnyEngine

theorem check_versions_eq_iff_republished :
    let s := ofImage .empty "nginx:1.0@sha256:run"
    let v : Verdict := ⟨"1.0@sha256:run", "1.0@sha256:new", false, "nginx"⟩
    let tags := [ImageTag.ofDigest "1.0" "sha256:new"]
    (s.check (listing tags) .live (.fresh 60000 0 ())).1 = .ok (some v) ∧
      v.currentVersion ≠ v.latestVersion := by
  intro s v tags
  have hcheck : (s.check (listing tags) .live (.fresh 60000 0 ())).1 = .ok (some v) :=
    (s.check_eq_settle (listing_gives tags) rfl).trans (by decide +kernel)
  obtain ⟨running, listed, hrunning, hlisted, -, hiff⟩ := check_versions_eq_iff hcheck rfl
  obtain rfl := eq_declared_of_listing_mayRun hrunning
  obtain rfl := eq_of_listing_lists hlisted
  refine ⟨hcheck, fun hsame => ?_⟩
  obtain ⟨-, -, -, r, hr, -, hdigest, -⟩ :=
    (hiff (by decide +kernel) (by decide +kernel) (by decide +kernel)).mp hsame
  obtain rfl : ImageTag.ofDigest "1.0" "sha256:new" = r := by
    have hlatest : s.policy.latestVersion? [.ofDigest "1.0" "sha256:new"] =
        some (.ofDigest "1.0" "sha256:new") := by decide
    exact Option.some.inj (hlatest.symm.trans hr)
  revert hdigest
  decide +kernel

/-- A container is declared with the digest that its tag points to, but still runs another one. -/
theorem check_versions_same_of_stale_container :
    ¬ ∀ (service : Service Unit) (s : Subject) (w : World Unit) (v : Verdict),
      (s.check service .live w).1 = .ok (some v) → v.isLatest = false →
        (∀ running, s.MayRun service running → Unmarked running.tag) →
        Unmarked s.image.digest → Unmarked s.runningDigest →
        (∀ tags, Sources.Lists ⟨service, (· = s), w.cache.cache⟩ tags →
          ∀ t ∈ tags, Unmarked t.tag ∧ Unmarked t.digest) →
        v.currentVersion ≠ v.latestVersion := by
  intro hall
  let s := ofImage .empty "nginx:1.0@sha256:new"
  let v : Verdict := ⟨"1.0@sha256:new", "1.0@sha256:new", false, "nginx"⟩
  let tags := [ImageTag.ofDigest "1.0" "sha256:new"]
  have hcheck : (s.check (listing tags) .live (.fresh 60000 0 ())).1 = .ok (some v) :=
    (s.check_eq_settle (listing_gives tags) rfl).trans (by decide +kernel)
  refine hall (listing tags) s (.fresh 60000 0 ()) v hcheck rfl ?_ (by decide +kernel)
    (by decide +kernel) ?_ rfl
  · intro running hrunning
    rw [eq_declared_of_listing_mayRun hrunning]
    decide +kernel
  · intro listed hlisted
    rw [eq_of_listing_lists hlisted]
    decide +kernel

end Subject

end ImageFreshness
