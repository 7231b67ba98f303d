import ImageFreshness.Pattern.Compile
import ImageFreshness.Proofs.ImageReferences
import ImageFreshness.Proofs.ScanIndependence

/-!
# Tags in place of pinned digests

A policy may ask for the tag of a pinned digest.  A tag that the registry gives then counts as if it
had been declared, and one that it does not give as if it had never been asked for
(`Subject.check_resolution`).

The two checks that are compared have different images, policies and cache keys.  What they end with
depends on the running tag, the image that is looked up and the part of the policy that selects tags
(`Subject.settle_eq_of_running`), and these are the same.
-/

namespace ImageFreshness

/-! ### Declared tags -/

namespace ImageReference

/-- The URL of an image that is pinned to a digest ends before the first `@`. -/
theorem at_notMem_url {text : String} (h : (parse text).digest ≠ "") :
    '@' ∉ (parse text).url.toList := by
  by_cases hmem : '@' ∈ text.toList
  · obtain ⟨named, digest, rfl, hnamed⟩ := exists_named_of_mem hmem
    rw [parse_append_at hnamed, String.toList_ofList]
    intro hurl
    apply hnamed
    rcases (named_cutTagOfPath named.toList).eq with ⟨htext, -⟩ | htext
    · rw [htext, String.toList_ofList]
      exact hurl
    · rw [htext]
      simp [hurl]
  · rw [parse_of_notMem hmem] at h
    exact absurd rfl h

/-- A tag that is declared behind a URL is read back, whatever colons the URL has. -/
theorem parse_append_tag {url tag : String} (hurl : '@' ∉ url.toList)
    (htag : ∀ c ∈ ['@', ':', '/'], c ∉ tag.toList) :
    parse (url ++ ":" ++ tag) = ⟨url, tag, ""⟩ := by
  have htext : (url ++ ":" ++ tag).toList = url.toList ++ ':' :: tag.toList := by simp
  have hnone : '@' ∉ (url ++ ":" ++ tag).toList := by
    rw [htext]
    simp [hurl, htag '@']
  rw [parse_of_notMem hnone, htext,
    cutTagAtEnd_append_cons url.toList (htag ':' (by simp)) (htag '/' (by simp))]
  simp only [String.ofList_toList]

end ImageReference

namespace Subject

section AnyEngine

variable [PatternEngine] {σ : Type} {service : Service σ} {answers : Answers} {s s' : Subject}

/-- The subject with a policy that does not ask for the tag of a pinned digest. -/
def unresolved (s : Subject) : Subject :=
  { s with policy := { s.policy with resolveDigest := false } }

/-- The subject with another declared image. -/
def declaring (s : Subject) (image : String) : Subject :=
  { s with container := { s.container with image } }

/-- The verdict does not depend on whether the tag of a pinned digest is asked for. -/
theorem judge_congr (hdigest : s.runningDigest = s'.runningDigest)
    (hpolicy : s.unresolved.policy = s'.unresolved.policy) (hurl : s.lookupUrl = s'.lookupUrl)
    (running : RunningTag) (tags : List ImageTag) :
    s.judge running tags = s'.judge running tags := by
  have hmode := congrArg Policy.useDigest hpolicy
  have hversion := congrArg (Policy.latestVersion? · tags) hpolicy
  have hlatest := congrArg (Policy.latestDigest? · tags) hpolicy
  change s.policy.useDigest = s'.policy.useDigest at hmode
  change s.policy.latestVersion? tags = s'.policy.latestVersion? tags at hversion
  change s.policy.latestDigest? tags = s'.policy.latestDigest? tags at hlatest
  unfold judge comparesDigests
  rw [hmode, hversion, hlatest, hdigest, hurl]

theorem settle_eq_of_running (hdigest : s.runningDigest = s'.runningDigest)
    (hpolicy : s.unresolved.policy = s'.unresolved.policy) (hurl : s.lookupUrl = s'.lookupUrl)
    (hrunning : s.runningTag answers = s'.runningTag answers) :
    s.settle answers = s'.settle answers := by
  have hconclude : s.conclude = s'.conclude := by
    funext running tags
    rw [conclude, conclude, judge_congr hdigest hpolicy hurl]
  simp only [settle, location, hdigest, hurl, hrunning, hconclude]

/-- A tag that is not given is as if it had not been asked for. -/
theorem settle_unresolved (h : s.runningTag answers = .declared s.image) :
    s.settle answers = s.unresolved.settle answers :=
  settle_eq_of_running rfl rfl rfl h

/-- A tag that is given is as if it had been declared. -/
theorem settle_declaring (hpin : s.image.digest ≠ "") {tag : String}
    (htag : ∀ c ∈ ['@', ':', '/'], c ∉ tag.toList) (h : s.runningTag answers = ⟨tag, none⟩) :
    s.settle answers = (s.declaring (s.image.url ++ ":" ++ tag)).unresolved.settle answers := by
  have himage : (s.declaring (s.image.url ++ ":" ++ tag)).unresolved.image =
      ⟨s.image.url, tag, ""⟩ :=
    ImageReference.parse_append_tag (ImageReference.at_notMem_url hpin) htag
  refine settle_eq_of_running rfl rfl ?_ ?_
  · rw [lookupUrl, lookupUrl, himage]
    rfl
  · rw [h, runningTag, RunningTag.declared, himage]
    rfl

/-- **A resolved digest is the tag it resolves to.**  With a cache that is empty at first: if the
    registry gives no tag for the digest that the declared image is pinned to, the check ends as if
    none had been asked for.  If it gives one, the check ends as if the image had been declared with
    that tag in place of the digest. -/
theorem check_resolution (hgives : service.Gives answers) (s : Subject)
    (hresolve : s.policy.resolveDigest = true) (hpin : s.image.digest ≠ "") {w w' : World σ}
    (hempty : w.cache.cache.entries = []) (hempty' : w'.cache.cache.entries = []) :
    ((∀ tag, answers.resolve s.image.url s.image.digest = .ok tag → tag = "") →
      (s.check service .live w).1 = (s.unresolved.check service .live w').1) ∧
    ∀ tag, answers.resolve s.image.url s.image.digest = .ok tag → tag ≠ "" →
      (∀ c ∈ ['@', ':', '/'], c ∉ tag.toList) →
      (s.check service .live w).1 =
        ((s.declaring (s.image.url ++ ":" ++ tag)).unresolved.check service .live w').1 := by
  have hwants : s.wantsResolution = true := by
    rw [wantsResolution, hresolve, Bool.true_and, decide_eq_true_eq]
    exact hpin
  have hrunning : s.runningTag answers =
      .afterResolution s.image (answers.resolve s.image.url s.image.digest) := by
    rw [runningTag, if_pos hwants]
  constructor
  · intro hnone
    rw [s.check_eq_settle hgives hempty, s.unresolved.check_eq_settle hgives hempty']
    apply settle_unresolved
    rw [hrunning]
    cases hanswer : answers.resolve s.image.url s.image.digest with
    | error error => rfl
    | ok tag => rw [RunningTag.afterResolution, if_pos (hnone tag hanswer)]
  · intro tag hanswer hne hchars
    rw [s.check_eq_settle hgives hempty, check_eq_settle hgives _ hempty']
    apply settle_declaring hpin hchars
    rw [hrunning, hanswer, RunningTag.afterResolution, if_neg hne]

end AnyEngine

/-- A registry that gives this answer for every digest.  It takes less time the more it has been
    asked. -/
def resolvingAnswers (answer : Except RegistryError String) : Answers where
  tags _ := .ok [.ofDigest "1.0.0" "sha256:a", .ofDigest "1.1.0" "sha256:b"]
  resolve _ _ := answer

def resolvingRegistry (answer : Except RegistryError String) : Service Nat where
  tags location asked :=
    (⟨40 / (asked + 1), (resolvingAnswers answer).tags location, []⟩, asked + 1)
  resolve url digest asked :=
    (⟨40 / (asked + 1), (resolvingAnswers answer).resolve url digest, []⟩, asked + 1)

theorem resolvingRegistry_gives (answer : Except RegistryError String) :
    (resolvingRegistry answer).Gives (resolvingAnswers answer) :=
  ⟨fun _ _ => rfl, fun _ _ _ => rfl⟩

/-- A container that is pinned to a digest, with a port, a tag and a mirror. -/
def pinnedApp : Subject where
  pod := ⟨⟨"web", "default", []⟩, ⟨[], []⟩, ⟨[⟨"app", "docker-pullable://app@sha256:a"⟩], []⟩⟩
  container := ⟨"app", "localhost:5000/app:0.9@sha256:a"⟩
  policy := { Policy.empty with resolveDigest := true, overrideUrl := some "mirror.local/app" }

/-- The digest does not resolve, and it resolves to a version and to a tag that is compared by
    digest. -/
theorem check_resolution_pinnedApp :
    let check (answer : Except RegistryError String) :=
      (pinnedApp.check (resolvingRegistry answer) .live (.fresh 60 0 0)).1
    let checkOff (s : Subject) (answer : Except RegistryError String) :=
      (s.unresolved.check (resolvingRegistry answer) .live (.fresh 5 7 3)).1
    pinnedApp.policy.resolveDigest = true ∧
      pinnedApp.image = ⟨"localhost:5000/app", "0.9", "sha256:a"⟩ ∧
      check (.error .network) = checkOff pinnedApp (.error .network) ∧
      check (.ok "1.1.0") =
        checkOff (pinnedApp.declaring "localhost:5000/app:1.1.0") (.ok "1.1.0") ∧
      check (.ok "latest") =
        checkOff (pinnedApp.declaring "localhost:5000/app:latest") (.ok "latest") ∧
      check (.error .network) = .ok (some ⟨"0.9@sha256:a", "1.1.0", false, "mirror.local/app"⟩) ∧
      check (.ok "1.1.0") =
        .ok (some ⟨"1.1.0", "1.1.0@sha256:b", false, "mirror.local/app"⟩) ∧
      check (.ok "latest") =
        .ok (some ⟨"latest@sha256:a", "1.0.0@sha256:a", true, "mirror.local/app"⟩) := by
  intro check checkOff
  have hresolve : pinnedApp.policy.resolveDigest = true := rfl
  have himage : pinnedApp.image = ⟨"localhost:5000/app", "0.9", "sha256:a"⟩ := by decide
  have hpin : pinnedApp.image.digest ≠ "" := by
    rw [himage]
    decide
  have hempty : (World.fresh 60 0 (0 : Nat)).cache.cache.entries = [] := rfl
  have hempty' : (World.fresh 5 7 (3 : Nat)).cache.cache.entries = [] := rfl
  have happlied (answer : Except RegistryError String) :=
    check_resolution (resolvingRegistry_gives answer) pinnedApp hresolve hpin hempty hempty'
  have hfails : check (.error .network) = checkOff pinnedApp (.error .network) := by
    apply (happlied (.error .network)).1
    rintro tag ⟨⟩
  have hversion := (happlied (.ok "1.1.0")).2 "1.1.0" rfl (by decide) (by simp)
  have hlatest := (happlied (.ok "latest")).2 "latest" rfl (by decide) (by simp)
  rw [himage] at hversion hlatest
  exact ⟨hresolve, himage, hfails, hversion, hlatest, by decide +kernel, by decide +kernel,
    by decide +kernel⟩

end Subject

end ImageFreshness
