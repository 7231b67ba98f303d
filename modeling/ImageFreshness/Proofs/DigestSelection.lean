import ImageFreshness.Pattern.Compile
import ImageFreshness.Proofs.CheckVerdicts
import ImageFreshness.Proofs.VersionVerdict

/-!
# The tag that is selected by digest

Where digests are compared, the latest candidate is the one that was made last, and of several that
were made at one time it is the first in the list (`Policy.latestDigest?_firstLatest`).  A registry
that does not say when its images were made gives one time for all of them; then the order of the
list alone decides.

So a check never calls a container that runs the image of a candidate outdated because of an older
one.  But it may because of one that is just as old, if that one stands before all candidates with
the running digest.
-/

namespace ImageFreshness

/-! ### Times -/

theorem Instant.before_or_eq {a b : Instant} (hba : b.before a = false) :
    a.before b = true ∨ a = b := by
  by_cases hne : a = b
  · exact Or.inr hne
  · exact Or.inl (before_of_ne hne hba)

/-! ### Keeping the best of the candidates -/

/-- What is kept of the elements with a property, seen in the list of all elements. -/
theorem IsPick.of_filter {α : Type} {better : α → α → Bool} {p : α → Bool} {xs : List α} {r : α}
    (h : IsPick better (xs.filter p) r) :
    ∃ before after, xs = before ++ r :: after ∧ p r = true ∧
      (∀ x ∈ before, p x = true → ∃ kept, better kept r = true ∧ better kept x = false) ∧
      ∀ x ∈ after, p x = true → better r x = false := by
  obtain ⟨first, last, hfilter, hfirst⟩ := h.first
  obtain ⟨front, rest, hxs, rfl, hrest⟩ := List.filter_eq_append_iff.mp hfilter
  obtain ⟨skipped, after, rfl, hskipped, hr, -⟩ := List.filter_eq_cons_iff.mp hrest
  refine ⟨front ++ skipped, after, by rw [hxs, List.append_assoc], hr, ?_, ?_⟩
  · intro x hx hp
    rcases List.mem_append.mp hx with hx | hx
    · exact hfirst x (List.mem_filter.mpr ⟨hx, hp⟩)
    · exact absurd hp (hskipped x hx)
  · intro x hx hp
    exact h.best x (List.mem_filter.mpr ⟨by simp [hxs, hx], hp⟩)

namespace Policy

variable [PatternEngine]

/-! ### Candidates -/

/-- A tag is a candidate if it holds an image, and matches the pattern if there is one. -/
structure Eligible (policy : Policy) (t : ImageTag) : Prop where
  image : ∀ ending ∈ [".att", ".sig", ".sbom"], ¬ ending.toList <:+ t.tag.toList
  matched : ∀ pattern, policy.pattern = some pattern → pattern.isMatch t.tag = true

theorem allowsDigest_iff (policy : Policy) (t : ImageTag) :
    policy.allowsDigest t = true ↔ policy.Eligible t := by
  have himage : t.isArtifact = false ↔
      ∀ ending ∈ [".att", ".sig", ".sbom"], ¬ ending.toList <:+ t.tag.toList := by
    simp only [ImageTag.isArtifact, ImageTag.artifactSuffixes, List.any_eq_false,
      List.isSuffixOf_iff_suffix]
    simp
  have hmatched : (policy.pattern.all fun pattern => pattern.isMatch t.tag) = true ↔
      ∀ pattern, policy.pattern = some pattern → pattern.isMatch t.tag = true := by
    simp [Option.all_eq_true]
  rw [allowsDigest, Bool.and_eq_true, Bool.not_eq_true', himage, hmatched]
  exact ⟨fun h => ⟨h.1, h.2⟩, fun h => ⟨h.image, h.matched⟩⟩

/-! ### The selection -/

/-- A candidate that stands between earlier ones and ones that are no later. -/
structure FirstLatest (policy : Policy) (before : List ImageTag) (r : ImageTag)
    (after : List ImageTag) : Prop where
  eligible : policy.Eligible r
  earlier : ∀ t ∈ before, policy.Eligible t → t.created.before r.created = true
  noLater : ∀ t ∈ after, policy.Eligible t → r.created.before t.created = false

/-- The tag that is selected is the first of the candidates that were made last. -/
theorem latestDigest?_firstLatest {policy : Policy} {tags : List ImageTag} {r : ImageTag}
    (h : policy.latestDigest? tags = some r) :
    ∃ before after, tags = before ++ r :: after ∧ policy.FirstLatest before r after := by
  have hself (t : ImageTag) : t.created.before t.created = false := t.created.before_self
  have htrans (a b c : ImageTag) (hab : a.created.before b.created = true)
      (hbc : b.created.before c.created = true) : a.created.before c.created = true :=
    Instant.before_trans hab hbc
  have hpick := pickBest_isPick hself htrans h
  obtain ⟨before, after, htags, hr, hbefore, hafter⟩ := hpick.of_filter
  refine ⟨before, after, htags, (policy.allowsDigest_iff r).mp hr, ?_, ?_⟩
  · intro t ht heligible
    obtain ⟨kept, hkept, hkeptt⟩ := hbefore t ht ((policy.allowsDigest_iff t).mpr heligible)
    exact Instant.before_of_not_before hkept hkeptt
  · intro t ht heligible
    exact hafter t ht ((policy.allowsDigest_iff t).mpr heligible)

end Policy

/-! ### Verdicts -/

namespace Subject

section AnyEngine

variable [PatternEngine] {s : Subject} {running : RunningTag} {tags : List ImageTag}

theorem exists_of_judge_byDigest {v : Verdict} (hmode : s.comparesDigests running = true)
    (hv : s.judge running tags = .ok v) :
    ∃ r, s.policy.latestDigest? tags = some r ∧
      v = .byDigest r running s.runningDigest s.lookupUrl := by
  cases hr : s.policy.latestDigest? tags with
  | none => simp [judge, hmode, hr] at hv
  | some r =>
    simp only [judge, hmode, hr, if_true, Except.ok.injEq] at hv
    exact ⟨r, rfl, hv.symm⟩

theorem outdated_of_judge (hmode : s.comparesDigests running = true) {v : Verdict}
    (hv : s.judge running tags = .ok v) (houtdated : v.isLatest = false) :
    ∃ before r after, tags = before ++ r :: after ∧ s.policy.latestDigest? tags = some r ∧
      s.policy.FirstLatest before r after ∧ r.digest ≠ s.runningDigest ∧
      v.latestVersion = Verdict.tagAtDigest r.tag r.digest := by
  obtain ⟨r, hr, rfl⟩ := exists_of_judge_byDigest hmode hv
  obtain ⟨before, after, htags, hfirst⟩ := Policy.latestDigest?_firstLatest hr
  have hdigest : r.digest ≠ s.runningDigest := by
    simpa [Verdict.byDigest] using houtdated
  exact ⟨before, r, after, htags, hr, hfirst, hdigest, rfl⟩

/-! ### Checks -/

/-- Where a check compares digests, it calls a container outdated because of one candidate with
    another digest.  A candidate with the running digest is earlier than that one if it stands
    before it, and if it stands behind it is earlier or was made at the same time. -/
theorem outdated_by_earlier_or_first {σ : Type} {service : Service σ} {s : Subject} {token : Token}
    {w : World σ} {v : Verdict} (h : (s.check service token w).1 = .ok (some v))
    (houtdated : v.isLatest = false) :
    ∃ running tags, s.MayRun service running ∧
      Sources.Lists ⟨service, (· = s), w.cache.cache⟩ tags ∧ s.judge running tags = .ok v ∧
      (s.comparesDigests running = true →
        ∃ before r after, tags = before ++ r :: after ∧ s.policy.latestDigest? tags = some r ∧
          s.policy.Eligible r ∧ r.digest ≠ s.runningDigest ∧
          v.latestVersion = Verdict.tagAtDigest r.tag r.digest ∧
          (∀ t ∈ before, s.policy.Eligible t → t.digest = s.runningDigest →
            t.created.before r.created = true) ∧
          ∀ t ∈ after, s.policy.Eligible t → t.digest = s.runningDigest →
            t.created.before r.created = true ∨ t.created = r.created) := by
  obtain ⟨-, running, tags, hrunning, htags, hv⟩ := check_verdict h
  refine ⟨running, tags, hrunning, htags, hv, fun hmode => ?_⟩
  obtain ⟨before, r, after, hlisted, hr, hfirst, hdigest, hversion⟩ :=
    outdated_of_judge hmode hv houtdated
  refine ⟨before, r, after, hlisted, hr, hfirst.eligible, hdigest, hversion, ?_, ?_⟩
  · intro t ht heligible _
    exact hfirst.earlier t ht heligible
  · intro t ht heligible _
    exact Instant.before_or_eq (hfirst.noLater t ht heligible)

end AnyEngine

/-- A registry that lists some tags for every image, and knows no digest. -/
def listing (tags : List ImageTag) : Service Unit where
  tags _ _ := (⟨0, .ok tags, []⟩, ())
  resolve _ digest _ := (⟨0, .error (.notFound digest), []⟩, ())

def listingAnswers (tags : List ImageTag) : Answers where
  tags _ := .ok tags
  resolve _ digest := .error (.notFound digest)

theorem listing_gives (tags : List ImageTag) : (listing tags).Gives (listingAnswers tags) :=
  ⟨fun _ _ => rfl, fun _ _ _ => rfl⟩

theorem eq_of_listing_lists [PatternEngine] {s : Subject} {tags listed : List ImageTag}
    (h : Sources.Lists ⟨listing tags, (· = s), .empty 60000⟩ listed) : listed = tags := by
  cases h with
  | cached hentry => cases hentry
  | answered _ htags =>
    cases htags
    rfl

theorem eq_declared_of_listing_mayRun [PatternEngine] {s : Subject} {running : RunningTag}
    {tags : List ImageTag} (h : s.MayRun (listing tags) running) : running = .declared s.image := by
  cases h with
  | declared => rfl
  | resolved _ hanswer => cases hanswer

theorem outdated_by_earlier_or_first_rebuilt :
    let s := ofImage .empty "nginx:latest"
    let v : Verdict := ⟨"latest@sha256:run", "1.1@sha256:new", false, "nginx"⟩
    let tags := [Policy.taggedAt 3 "1.0" "sha256:run", Policy.taggedAt 5 "1.1" "sha256:new",
      Policy.taggedAt 5 "latest" "sha256:run", Policy.taggedAt 7 "1.1.sig" "sha256:s"]
    (s.check (listing tags) .live (.fresh 60000 0 ())).1 = .ok (some v) ∧
      ∃ before r after, tags = before ++ r :: after ∧ s.policy.latestDigest? tags = some r ∧
        (∀ t ∈ before, s.policy.Eligible t → t.digest = s.runningDigest →
          t.created.before r.created = true) ∧
        ∀ t ∈ after, s.policy.Eligible t → t.digest = s.runningDigest →
          t.created.before r.created = true ∨ t.created = r.created := by
  intro s v tags
  have hcheck : (s.check (listing tags) .live (.fresh 60000 0 ())).1 = .ok (some v) :=
    (s.check_eq_settle (listing_gives tags) rfl).trans (by decide +kernel)
  obtain ⟨running, listed, hrunning, hlisted, -, hcandidates⟩ :=
    outdated_by_earlier_or_first hcheck rfl
  obtain rfl := eq_declared_of_listing_mayRun hrunning
  obtain rfl := eq_of_listing_lists hlisted
  obtain ⟨before, r, after, htags, hr, -, -, -, hbefore, hafter⟩ :=
    hcandidates (by decide +kernel)
  exact ⟨hcheck, before, r, after, htags, hr, hbefore, hafter⟩

/-- A registry gives no times, and lists another image before the running one. -/
theorem outdated_at_equal_times :
    ¬ ∀ (service : Service Unit) (s : Subject) (w : World Unit) (v : Verdict),
      (s.check service .live w).1 = .ok (some v) → v.isLatest = false →
        (∀ running, s.MayRun service running → s.comparesDigests running = true) →
        ∀ tags, Sources.Lists ⟨service, (· = s), w.cache.cache⟩ tags →
          ∀ r, s.policy.latestDigest? tags = some r →
            ∀ t ∈ tags, s.policy.Eligible t → t.digest = s.runningDigest →
              t.created.before r.created = true := by
  intro hall
  let s := ofImage .empty "nginx:latest"
  let v : Verdict := ⟨"latest@sha256:run", "1.0@sha256:old", false, "nginx"⟩
  let tags := [ImageTag.ofDigest "1.0" "sha256:old", .ofDigest "latest" "sha256:run"]
  have hcheck : (s.check (listing tags) .live (.fresh 60000 0 ())).1 = .ok (some v) :=
    (s.check_eq_settle (listing_gives tags) rfl).trans (by decide +kernel)
  have hmode : ∀ running, s.MayRun (listing tags) running →
      s.comparesDigests running = true := by
    intro running hrunning
    rw [eq_declared_of_listing_mayRun hrunning]
    decide +kernel
  have hanswer : ((listing tags).tags s.location ()).1.answer = .ok tags := rfl
  have hlists : Sources.Lists ⟨listing tags, (· = s), .empty 60000⟩ tags := .answered rfl hanswer
  have heligible : s.policy.Eligible (.ofDigest "latest" "sha256:run") :=
    (s.policy.allowsDigest_iff _).mp (by decide)
  have hbefore := hall (listing tags) s (.fresh 60000 0 ()) v hcheck rfl hmode tags hlists
    (.ofDigest "1.0" "sha256:old") (by decide) (.ofDigest "latest" "sha256:run") (by decide)
    heligible (by decide +kernel)
  revert hbefore
  decide

end Subject

end ImageFreshness
