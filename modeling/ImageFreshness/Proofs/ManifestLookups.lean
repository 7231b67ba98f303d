import ImageFreshness.Proofs.TagListing
import Mathlib.Logic.Relation

/-!
# Lookups of digests that overlap

Up to `maxLookups` lookups of digests are under way at a time.  They are started in the order of the
list of tags, and their answers may arrive in any order, but they are taken in the order in which
the lookups were started: `DigestLookups.Step` tells what can happen next, `DigestLookups.Ends` when
it is over.

If each tag is answered in one way, then whatever happens leads to the same end, which is what the
tags give one by one (`DigestLookups.Agrees.step`).  So `DistributionClient.imageTags`, which asks
for one digest after the other, gives what overlapping lookups give
(`DistributionClient.imageTags_overlapping`).
-/

namespace ImageFreshness

variable {σ : Type}

namespace DistributionClient

/-! ### One lookup -/

def manifestAddress (base name tag : String) : String :=
  base ++ "/v2/" ++ name ++ "/manifests/" ++ tag

def manifestRequest (c : DistributionClient) (address : String) (url : Url) : HttpRequest :=
  ⟨.head, address, url, c.userAgent, some manifestTypes⟩

/-- What the response to the request for its manifest, or the lack of one, says about a tag. -/
def lookupAnswer (name tag : String) : Option HttpResponse → Except RegistryError String
  | none => .error .network
  | some response =>
    if response.status = 404 then .error (.notFound name)
    else if response.status = 429 then
      .error (.rateLimited
        ((response.header? "retry-after").bind (Text.Decimal.unsigned? ·.toList)))
    else if response.isSuccess then
      match response.header? "docker-content-digest" with
      | some digest => .ok digest
      | none => .error (.invalidResponse ("Missing digest for " ++ name ++ ":" ++ tag))
    else
      .error (.invalidResponse ("Unexpected status: " ++ HttpResponse.statusText response.status))

def IsGone (response : Option HttpResponse) : Prop := response.map (·.status) = some 404

instance (response : Option HttpResponse) : Decidable (IsGone response) :=
  inferInstanceAs (Decidable (_ = _))

/-- The requests for the manifest of a tag are all answered with this response. -/
inductive Assigns (t : Transport σ) (c : DistributionClient) (base name tag : String) :
    Option HttpResponse → Prop where
  | unsent : Url.parse? (manifestAddress base name tag) = none → Assigns t c base name tag none
  | sent {url : Url} {response : Option HttpResponse} :
      Url.parse? (manifestAddress base name tag) = some url →
      (∀ state, (t.send (c.manifestRequest (manifestAddress base name tag) url) state).1 =
        response) →
      Assigns t c base name tag response

theorem lookupAnswer_isGone_iff (name tag : String) (response : Option HttpResponse) :
    (∃ what, lookupAnswer name tag response = .error (.notFound what)) ↔ IsGone response := by
  cases response with
  | none => simp [lookupAnswer, IsGone]
  | some response =>
    by_cases hgone : response.status = 404
    · simp [lookupAnswer, IsGone, hgone]
    · simp only [lookupAnswer, IsGone, hgone, if_false, Option.map_some, Option.some.injEq,
        iff_false, not_exists]
      intro what
      split
      · simp
      · split
        · split <;> simp
        · simp

theorem requestDigest_of_assigns {t : Transport σ} {c : DistributionClient}
    {base name tag : String} {response : Option HttpResponse}
    (h : Assigns t c base name tag response) (w : Wire σ) :
    (c.requestDigest t base name tag w).1 = lookupAnswer name tag response := by
  unfold requestDigest request
  rw [← manifestAddress]
  cases h with
  | unsent hurl => simp only [hurl, lookupAnswer]
  | @sent url response hurl hsent =>
    replace hsent := hsent w.state
    simp only [manifestRequest] at hsent
    simp only [hurl]
    generalize t.send _ w.state = sent at hsent
    obtain ⟨answer, state⟩ := sent
    obtain rfl : answer = response := hsent
    cases answer with
    | none => rfl
    | some response =>
      simp only [lookupAnswer, statusError?]
      by_cases hgone : response.status = 404
      · simp only [if_pos hgone]
      · by_cases hlimited : response.status = 429
        · simp only [if_neg hgone, if_pos hlimited]
        · by_cases hsuccess : response.isSuccess = true
          · simp only [if_neg hgone, if_neg hlimited, if_pos hsuccess]
            cases response.header? "docker-content-digest" <;> rfl
          · simp only [if_neg hgone, if_neg hlimited, if_neg hsuccess]

/-! ### One lookup after the other -/

/-- What some tags give in order, if each is answered in one way: the tags that are gone are left
    out, and any other error ends it. -/
def gather (answer : String → Except RegistryError String) :
    List String → Except RegistryError (List ImageTag)
  | [] => .ok []
  | tag :: rest =>
    match answer tag with
    | .error (.notFound _) => gather answer rest
    | .error error => .error error
    | .ok digest => (gather answer rest).map (.ofDigest tag digest :: ·)

theorem answer_cases (r : Except RegistryError String) :
    (∃ digest, r = .ok digest) ∨ (∃ what, r = .error (.notFound what)) ∨
      ∃ error, r = .error error ∧ ∀ what, error ≠ .notFound what := by
  cases r with
  | ok digest => exact Or.inl ⟨digest, rfl⟩
  | error error =>
    by_cases hgone : ∃ what, error = .notFound what
    · obtain ⟨what, rfl⟩ := hgone
      exact Or.inr (Or.inl ⟨what, rfl⟩)
    · exact Or.inr (Or.inr ⟨error, rfl, not_exists.mp hgone⟩)

section RequestDigests

variable {t : Transport σ} {c : DistributionClient} {base name tag : String} {w : Wire σ}

theorem requestDigests_cons_of_gone {what : String}
    (h : (c.requestDigest t base name tag w).1 = .error (.notFound what)) (rest : List String) :
    c.requestDigests t base name (tag :: rest) w =
      c.requestDigests t base name rest (c.requestDigest t base name tag w).2 := by
  rw [requestDigests]
  generalize c.requestDigest t base name tag w = asked at h
  obtain ⟨answer, w'⟩ := asked
  subst h
  rfl

theorem requestDigests_cons_of_error {error : RegistryError}
    (h : (c.requestDigest t base name tag w).1 = .error error)
    (hother : ∀ what, error ≠ .notFound what) (rest : List String) :
    c.requestDigests t base name (tag :: rest) w =
      (.error error, (c.requestDigest t base name tag w).2) := by
  rw [requestDigests]
  generalize c.requestDigest t base name tag w = asked at h
  obtain ⟨answer, w'⟩ := asked
  subst h
  cases error with
  | notFound what => exact absurd rfl (hother what)
  | network => rfl
  | rateLimited => rfl
  | invalidResponse => rfl

theorem requestDigests_cons_of_ok {digest : String}
    (h : (c.requestDigest t base name tag w).1 = .ok digest) (rest : List String) :
    c.requestDigests t base name (tag :: rest) w =
      ((c.requestDigests t base name rest (c.requestDigest t base name tag w).2).1.map
          (.ofDigest tag digest :: ·),
        (c.requestDigests t base name rest (c.requestDigest t base name tag w).2).2) := by
  rw [requestDigests]
  generalize c.requestDigest t base name tag w = asked at h
  obtain ⟨answer, w'⟩ := asked
  subst h
  simp only
  generalize c.requestDigests t base name rest w' = others
  obtain ⟨error | more, w''⟩ := others
  · rfl
  · rfl

end RequestDigests

section Gather

variable {answer : String → Except RegistryError String} {gone : String → Prop}

theorem gather_cons_of_gone {tag what : String} (h : answer tag = .error (.notFound what))
    (rest : List String) : gather answer (tag :: rest) = gather answer rest := by
  simp only [gather, h]

theorem gather_cons_of_ok {tag digest : String} (h : answer tag = .ok digest)
    (rest : List String) :
    gather answer (tag :: rest) = (gather answer rest).map (.ofDigest tag digest :: ·) := by
  simp only [gather, h]

theorem gather_cons_of_error {tag : String} {error : RegistryError} (h : answer tag = .error error)
    (hother : ∀ what, error ≠ .notFound what) (rest : List String) :
    gather answer (tag :: rest) = .error error := by
  cases error with
  | notFound what => exact absurd rfl (hother what)
  | network => simp only [gather, h]
  | rateLimited => simp only [gather, h]
  | invalidResponse => simp only [gather, h]

theorem requestDigests_eq_gather {t : Transport σ} {c : DistributionClient} {base name : String}
    (tags : List String)
    (h : ∀ tag ∈ tags, ∀ w, (c.requestDigest t base name tag w).1 = answer tag) (w : Wire σ) :
    (c.requestDigests t base name tags w).1 = gather answer tags := by
  induction tags generalizing w with
  | nil => rfl
  | cons tag rest ih =>
    obtain ⟨htag, hrest⟩ := List.forall_mem_cons.mp h
    have hmore := ih hrest (c.requestDigest t base name tag w).2
    rcases answer_cases (answer tag) with ⟨digest, ha⟩ | ⟨what, ha⟩ | ⟨error, ha, hother⟩
    · rw [requestDigests_cons_of_ok ((htag w).trans ha), gather_cons_of_ok ha, hmore]
    · rw [requestDigests_cons_of_gone ((htag w).trans ha), gather_cons_of_gone ha, hmore]
    · rw [requestDigests_cons_of_error ((htag w).trans ha) hother,
        gather_cons_of_error ha hother]

variable (hgone : ∀ tag, (∃ what, answer tag = .error (.notFound what)) ↔ gone tag)

include hgone in
theorem answer_cases_of_gone (tag : String) :
    (∃ digest, answer tag = .ok digest ∧ ¬ gone tag) ∨
      (∃ what, answer tag = .error (.notFound what) ∧ gone tag) ∨
      ∃ error, answer tag = .error error ∧ (∀ what, error ≠ .notFound what) ∧ ¬ gone tag := by
  rcases answer_cases (answer tag) with ⟨digest, ha⟩ | ⟨what, ha⟩ | ⟨error, ha, hother⟩
  · refine Or.inl ⟨digest, ha, fun htag => ?_⟩
    obtain ⟨what, hwhat⟩ := (hgone tag).mpr htag
    rw [ha] at hwhat
    cases hwhat
  · exact Or.inr (Or.inl ⟨what, ha, (hgone tag).mp ⟨what, ha⟩⟩)
  · refine Or.inr (Or.inr ⟨error, ha, hother, fun htag => ?_⟩)
    obtain ⟨what, hwhat⟩ := (hgone tag).mpr htag
    exact hother what (Except.error.inj (ha.symm.trans hwhat))

include hgone in
theorem gather_eq_ok_iff [DecidablePred gone] (names : List String) (tags : List ImageTag) :
    gather answer names = .ok tags ↔
      List.Forall₂ (fun tag t => ∃ digest, answer tag = .ok digest ∧ t = .ofDigest tag digest)
        (names.filter fun tag => ¬ gone tag) tags := by
  induction names generalizing tags with
  | nil =>
    rw [List.filter_nil, List.forall₂_nil_left_iff, gather, Except.ok.injEq]
    exact eq_comm
  | cons tag rest ih =>
    rcases answer_cases_of_gone hgone tag with
      ⟨digest, ha, htag⟩ | ⟨what, ha, htag⟩ | ⟨error, ha, hother, htag⟩
    · rw [gather_cons_of_ok ha, List.filter_cons_of_pos (by simpa using htag),
        List.forall₂_cons_left_iff]
      constructor
      · intro hok
        cases hrest : gather answer rest with
        | error error =>
          rw [hrest] at hok
          cases hok
        | ok more =>
          rw [hrest] at hok
          cases hok
          exact ⟨_, more, ⟨digest, ha, rfl⟩, (ih more).mp hrest, rfl⟩
      · rintro ⟨t, more, ⟨digest', hdigest, rfl⟩, hmore, rfl⟩
        obtain rfl := Except.ok.inj (ha.symm.trans hdigest)
        rw [(ih more).mpr hmore]
        rfl
    · rw [gather_cons_of_gone ha, List.filter_cons_of_neg (by simpa using htag)]
      exact ih tags
    · rw [gather_cons_of_error ha hother, List.filter_cons_of_pos (by simpa using htag),
        List.forall₂_cons_left_iff]
      simp [ha]

include hgone in
theorem gather_eq_error_iff (names : List String) (error : RegistryError) :
    gather answer names = .error error ↔
      ∃ before tag after, names = before ++ tag :: after ∧
        (∀ earlier ∈ before, gone earlier ∨ ∃ digest, answer earlier = .ok digest) ∧
        answer tag = .error error ∧ ¬ gone tag := by
  constructor
  · intro h
    induction names with
    | nil => cases h
    | cons tag rest ih =>
      -- the tags before the failing one are those that the recursion goes past
      have hbehind : gather answer rest = .error error →
          (gone tag ∨ ∃ digest, answer tag = .ok digest) →
          ∃ before failing after, tag :: rest = before ++ failing :: after ∧
            (∀ earlier ∈ before, gone earlier ∨ ∃ digest, answer earlier = .ok digest) ∧
            answer failing = .error error ∧ ¬ gone failing := by
        intro hrest htag
        obtain ⟨before, failing, after, rfl, hbefore, hfailing⟩ := ih hrest
        exact ⟨tag :: before, failing, after, rfl, List.forall_mem_cons.mpr ⟨htag, hbefore⟩,
          hfailing⟩
      rcases answer_cases_of_gone hgone tag with
        ⟨digest, ha, -⟩ | ⟨what, ha, htag⟩ | ⟨other, ha, hother, htag⟩
      · rw [gather_cons_of_ok ha] at h
        cases hrest : gather answer rest with
        | error failure =>
          rw [hrest] at h
          cases h
          exact hbehind hrest (Or.inr ⟨digest, ha⟩)
        | ok more =>
          rw [hrest] at h
          cases h
      · rw [gather_cons_of_gone ha] at h
        exact hbehind h (Or.inl htag)
      · rw [gather_cons_of_error ha hother] at h
        cases h
        exact ⟨[], tag, rest, rfl, by simp, ha, htag⟩
  · rintro ⟨before, tag, after, rfl, hbefore, ha, htag⟩
    induction before with
    | nil =>
      refine gather_cons_of_error ha ?_ after
      rintro what rfl
      exact htag ((hgone tag).mp ⟨what, ha⟩)
    | cons earlier before ih =>
      obtain ⟨hearlier, hbefore⟩ := List.forall_mem_cons.mp hbefore
      have hrest := ih hbefore
      rw [List.cons_append]
      rcases hearlier with hearlier | ⟨digest, hdigest⟩
      · obtain ⟨what, hwhat⟩ := (hgone earlier).mpr hearlier
        rw [gather_cons_of_gone hwhat, hrest]
      · rw [gather_cons_of_ok hdigest, hrest]
        rfl

end Gather

end DistributionClient

/-! ### Overlapping lookups -/

/-- The lookup of the digest of a tag, with its answer once that has arrived. -/
structure DigestLookup where
  tag : String
  answer : Option (Except RegistryError String)

/-- The state of the lookups for a list of tags. -/
structure DigestLookups (σ : Type) where
  /-- The tags whose lookups have not been started. -/
  waiting : List String
  /-- The lookups whose answers have not been taken, in the order of their start. -/
  underWay : List DigestLookup
  found : List ImageTag
  wire : Wire σ

namespace DigestLookups

open DistributionClient (gather gather_cons_of_gone gather_cons_of_ok gather_cons_of_error)

/-- How many lookups may be under way. -/
def maxLookups : Nat := 8

def begin (names : List String) (w : Wire σ) : DigestLookups σ := ⟨names, [], [], w⟩

@[simp] theorem begin_wire (names : List String) (w : Wire σ) : (begin names w).wire = w := rfl

inductive Step (t : Transport σ) (c : DistributionClient) (base name : String) :
    DigestLookups σ → DigestLookups σ → Prop where
  | start {tag : String} {waiting : List String} {underWay : List DigestLookup}
      {found : List ImageTag} {w : Wire σ} :
      underWay.length < maxLookups →
      Step t c base name ⟨tag :: waiting, underWay, found, w⟩
        ⟨waiting, underWay ++ [⟨tag, none⟩], found, w⟩
  /-- The answer to any lookup under way. -/
  | arrive {waiting : List String} {before : List DigestLookup} {tag : String}
      {after : List DigestLookup} {found : List ImageTag} {w : Wire σ} :
      Step t c base name ⟨waiting, before ++ ⟨tag, none⟩ :: after, found, w⟩
        ⟨waiting, before ++ ⟨tag, some (c.requestDigest t base name tag w).1⟩ :: after, found,
          (c.requestDigest t base name tag w).2⟩
  | found {waiting : List String} {tag digest : String} {rest : List DigestLookup}
      {found : List ImageTag} {w : Wire σ} :
      Step t c base name ⟨waiting, ⟨tag, some (.ok digest)⟩ :: rest, found, w⟩
        ⟨waiting, rest, found ++ [.ofDigest tag digest], w⟩
  | gone {waiting : List String} {tag what : String} {rest : List DigestLookup}
      {found : List ImageTag} {w : Wire σ} :
      Step t c base name ⟨waiting, ⟨tag, some (.error (.notFound what))⟩ :: rest, found, w⟩
        ⟨waiting, rest, found, w⟩

/-- When it is over, and with what.  The lookups that are still under way after an error are given
    up. -/
inductive Ends : DigestLookups σ → Except RegistryError (List ImageTag) → Prop where
  | failed {waiting : List String} {tag : String} {error : RegistryError} {rest : List DigestLookup}
      {found : List ImageTag} {w : Wire σ} :
      (∀ what, error ≠ .notFound what) →
      Ends ⟨waiting, ⟨tag, some (.error error)⟩ :: rest, found, w⟩ (.error error)
  | done {found : List ImageTag} {w : Wire σ} : Ends ⟨[], [], found, w⟩ (.ok found)

abbrev Run (t : Transport σ) (c : DistributionClient) (base name : String) :
    DigestLookups σ → DigestLookups σ → Prop :=
  Relation.ReflTransGen (Step t c base name)

variable {t : Transport σ} {c : DistributionClient} {base name : String} {s s' : DigestLookups σ}

/-! ### They come to an end -/

theorem ends_or_step (t : Transport σ) (c : DistributionClient) (base name : String)
    (s : DigestLookups σ) : (∃ r, s.Ends r) ∨ ∃ s', Step t c base name s s' := by
  obtain ⟨waiting, underWay, found, w⟩ := s
  rcases underWay with _ | ⟨⟨tag, _ | answer⟩, rest⟩
  · cases waiting with
    | nil => exact Or.inl ⟨_, .done⟩
    | cons tag waiting => exact Or.inr ⟨_, .start (by decide)⟩
  · have harrive : Step t c base name ⟨waiting, [] ++ ⟨tag, none⟩ :: rest, found, w⟩ _ := .arrive
    exact Or.inr ⟨_, harrive⟩
  · rcases DistributionClient.answer_cases answer with
      ⟨digest, rfl⟩ | ⟨what, rfl⟩ | ⟨error, rfl, hother⟩
    · exact Or.inr ⟨_, .found⟩
    · exact Or.inr ⟨_, .gone⟩
    · exact Or.inl ⟨_, .failed hother⟩

/-- How many steps there are left at most: a lookup is started, its answer arrives and is taken. -/
def remaining (s : DigestLookups σ) : Nat :=
  3 * s.waiting.length + s.underWay.length + s.underWay.countP (·.answer.isNone)

theorem Step.remaining_lt (h : Step t c base name s s') : s'.remaining < s.remaining := by
  cases h with
  | start =>
    simp only [remaining, List.length_cons, List.length_append, List.countP_append,
      List.countP_singleton, Option.isNone_none, if_true, List.length_nil]
    omega
  | arrive => simp [remaining]
  | found => simp [remaining]
  | gone => simp [remaining]

theorem wellFounded_step (t : Transport σ) (c : DistributionClient) (base name : String) :
    WellFounded fun s' s => Step t c base name s s' :=
  Subrelation.wf Step.remaining_lt (measure remaining).wf

theorem exists_run_ends (t : Transport σ) (c : DistributionClient) (base name : String)
    (s : DigestLookups σ) : ∃ s' r, Run t c base name s s' ∧ s'.Ends r := by
  induction s using (wellFounded_step t c base name).induction with
  | h s ih =>
    rcases ends_or_step t c base name s with ⟨r, hends⟩ | ⟨next, hstep⟩
    · exact ⟨s, r, .refl, hends⟩
    · obtain ⟨s', r, hrun, hends⟩ := ih next hstep
      exact ⟨s', r, .head hstep hrun, hends⟩

/-! ### They all come to the same end -/

/-- The tags whose answers have not been taken. -/
def tags (s : DigestLookups σ) : List String := s.underWay.map (·.tag) ++ s.waiting

@[simp] theorem tags_mk (waiting : List String) (underWay : List DigestLookup)
    (found : List ImageTag) (w : Wire σ) :
    tags ⟨waiting, underWay, found, w⟩ = underWay.map (·.tag) ++ waiting := rfl

/-- The lookups are on the way to what some tags give in order, if each is answered in one way. -/
structure Agrees (answer : String → Except RegistryError String) (names : List String)
    (s : DigestLookups σ) : Prop where
  mem_names : ∀ tag ∈ s.tags, tag ∈ names
  answered : ∀ lookup ∈ s.underWay, ∀ r, lookup.answer = some r → r = answer lookup.tag
  outcome : (gather answer s.tags).map (s.found ++ ·) =
    gather answer names

variable {answer : String → Except RegistryError String} {names : List String}

theorem agrees_begin (answer : String → Except RegistryError String) (names : List String)
    (w : Wire σ) : Agrees answer names (begin names w) where
  mem_names _ htag := htag
  answered _ hmem := nomatch hmem
  outcome := by
    change (gather answer names).map ([] ++ ·) = _
    cases gather answer names with
    | error error => rfl
    | ok found => rfl

/-- Whatever happens next, the outcome stays the same. -/
theorem Agrees.step (hanswer : ∀ tag ∈ names, ∀ w,
      (c.requestDigest t base name tag w).1 = answer tag)
    (h : Agrees answer names s) (hstep : Step t c base name s s') : Agrees answer names s' := by
  obtain ⟨hmem, hanswered, houtcome⟩ := h
  cases hstep with
  | @start tag waiting underWay found w =>
    refine ⟨by simpa using hmem, ?_, by simpa using houtcome⟩
    intro lookup hlookup r hr
    rcases List.mem_append.mp hlookup with hlookup | hlookup
    · exact hanswered lookup hlookup r hr
    · obtain rfl := List.mem_singleton.mp hlookup
      cases hr
  | @arrive waiting before tag after found w =>
    refine ⟨by simpa using hmem, ?_, by simpa using houtcome⟩
    intro lookup hlookup r hr
    rcases List.mem_append.mp hlookup with hlookup | hlookup
    · exact hanswered lookup (List.mem_append_left _ hlookup) r hr
    · rcases List.mem_cons.mp hlookup with rfl | hlookup
      · rw [← Option.some.inj hr]
        exact hanswer tag (hmem tag (by simp)) w
      · exact hanswered lookup (List.mem_append_right _ (List.mem_cons_of_mem _ hlookup)) r hr
  | @found waiting tag digest rest found w =>
    obtain ⟨htag, hrest⟩ := List.forall_mem_cons.mp hanswered
    refine ⟨fun other hother => hmem other (List.mem_cons_of_mem _ hother), hrest, ?_⟩
    rw [tags_mk, List.map_cons, List.cons_append, gather_cons_of_ok (htag _ rfl).symm] at houtcome
    rw [← houtcome, tags_mk]
    cases gather answer (rest.map (·.tag) ++ waiting) with
    | error error => rfl
    | ok more => simp [Except.map]
  | @gone waiting tag what rest found w =>
    obtain ⟨htag, hrest⟩ := List.forall_mem_cons.mp hanswered
    refine ⟨fun other hother => hmem other (List.mem_cons_of_mem _ hother), hrest, ?_⟩
    rw [tags_mk, List.map_cons, List.cons_append, gather_cons_of_gone (htag _ rfl).symm] at houtcome
    exact houtcome

theorem Agrees.run (hanswer : ∀ tag ∈ names, ∀ w,
      (c.requestDigest t base name tag w).1 = answer tag)
    (h : Agrees answer names s) (hrun : Run t c base name s s') : Agrees answer names s' := by
  induction hrun with
  | refl => exact h
  | tail _ hstep ih => exact ih.step hanswer hstep

theorem Agrees.eq_of_ends {r : Except RegistryError (List ImageTag)} (h : Agrees answer names s)
    (hends : s.Ends r) : r = gather answer names := by
  rw [← h.outcome]
  cases hends with
  | @failed waiting tag error rest found w hother =>
    obtain ⟨htag, -⟩ := List.forall_mem_cons.mp h.answered
    rw [tags_mk, List.map_cons, List.cons_append, gather_cons_of_error (htag _ rfl).symm hother]
    rfl
  | done => simp [gather, Except.map]

theorem length_underWay_le (h : s.underWay.length ≤ maxLookups) (hrun : Run t c base name s s') :
    s'.underWay.length ≤ maxLookups := by
  induction hrun with
  | refl => exact h
  | tail _ hstep ih =>
    cases hstep with
    | start hfree =>
      rw [List.length_append]
      exact hfree
    | arrive => simpa using ih
    | found => exact Nat.le_of_succ_le ih
    | gone => exact Nat.le_of_succ_le ih

end DigestLookups

namespace DistributionClient

variable {t : Transport σ} {c : DistributionClient} {imageUrl digest : String} {w : Wire σ}

/-! ### What an image is resolved to -/

theorem resolve_of_error {error : RegistryError}
    (h : (c.imageTags t (.ofUrl imageUrl) w).1 = .error error) :
    (c.resolve t imageUrl digest w).1 = .error error := by
  unfold resolve
  generalize c.imageTags t (.ofUrl imageUrl) w = listed at h
  obtain ⟨answer, w'⟩ := listed
  obtain rfl : answer = .error error := h
  rfl

theorem resolve_of_ok {tags : List ImageTag}
    (h : (c.imageTags t (.ofUrl imageUrl) w).1 = .ok tags) :
    (c.resolve t imageUrl digest w).1 =
      match tags.find? (·.digest = digest) with
      | some tag => .ok tag.tag
      | none => .error (.notFound (imageUrl ++ "@" ++ digest)) := by
  unfold resolve
  generalize c.imageTags t (.ofUrl imageUrl) w = listed at h
  obtain ⟨answer, w'⟩ := listed
  obtain rfl : answer = .ok tags := h
  simp only
  cases tags.find? (·.digest = digest) with
  | some tag => rfl
  | none => rfl

theorem resolve_eq_ok_iff (t : Transport σ) (c : DistributionClient) (imageUrl digest : String)
    (w : Wire σ) (tag : String) :
    (c.resolve t imageUrl digest w).1 = .ok tag ↔
      ∃ before found after, (c.imageTags t (.ofUrl imageUrl) w).1 = .ok (before ++ found :: after) ∧
        found.tag = tag ∧ found.digest = digest ∧ ∀ earlier ∈ before, earlier.digest ≠ digest := by
  cases hlisted : (c.imageTags t (.ofUrl imageUrl) w).1 with
  | error error =>
    rw [resolve_of_error hlisted]
    simp
  | ok tags =>
    rw [resolve_of_ok hlisted]
    constructor
    · intro htag
      cases hfind : tags.find? (·.digest = digest) with
      | none =>
        rw [hfind] at htag
        cases htag
      | some found =>
        rw [hfind] at htag
        cases htag
        obtain ⟨hdigest, before, after, rfl, hbefore⟩ := List.find?_eq_some_iff_append.mp hfind
        exact ⟨before, found, after, rfl, rfl, by simpa using hdigest, by simpa using hbefore⟩
    · rintro ⟨before, found, after, htags, rfl, hdigest, hbefore⟩
      obtain rfl := Except.ok.inj htags
      have hfind : (before ++ found :: after).find? (·.digest = digest) = some found :=
        List.find?_eq_some_iff_append.mpr
          ⟨by simpa using hdigest, before, after, rfl, by simpa using hbefore⟩
      rw [hfind]

/-- If the list was not refused with this very error, it says that no tag has the digest. -/
theorem resolve_eq_notFound_iff
    (hlisted : ∀ what, (c.imageTags t (.ofUrl imageUrl) w).1 ≠ .error (.notFound what)) :
    (∃ what, (c.resolve t imageUrl digest w).1 = .error (.notFound what)) ↔
      ∃ tags, (c.imageTags t (.ofUrl imageUrl) w).1 = .ok tags ∧
        ∀ found ∈ tags, found.digest ≠ digest := by
  constructor
  · rintro ⟨what, hwhat⟩
    cases htags : (c.imageTags t (.ofUrl imageUrl) w).1 with
    | error error =>
      rw [resolve_of_error htags] at hwhat
      rw [Except.error.inj hwhat] at htags
      exact absurd htags (hlisted what)
    | ok tags =>
      refine ⟨tags, rfl, ?_⟩
      rw [resolve_of_ok htags] at hwhat
      cases hfind : tags.find? (·.digest = digest) with
      | none => simpa using List.find?_eq_none.mp hfind
      | some found =>
        rw [hfind] at hwhat
        cases hwhat
  · rintro ⟨tags, htags, hnone⟩
    have hfind : tags.find? (·.digest = digest) = none :=
      List.find?_eq_none.mpr (by simpa using hnone)
    rw [resolve_of_ok htags, hfind]
    exact ⟨_, rfl⟩

/-! ### The tags of an image -/

section ImageTags

variable {location : ImageLocation}

theorem imageTags_of_error {error : RegistryError}
    (h : (c.listTags t (c.base location.host) location.name w).1 = .error error) :
    c.imageTags t location w =
      (.error error, (c.listTags t (c.base location.host) location.name w).2) := by
  simp only [imageTags]
  generalize c.listTags t (c.base location.host) location.name w = listed at h
  obtain ⟨answer, w'⟩ := listed
  subst h
  rfl

theorem imageTags_of_ok {names : List String}
    (h : (c.listTags t (c.base location.host) location.name w).1 = .ok names) :
    c.imageTags t location w =
      c.requestDigests t (c.base location.host) location.name names
        ((c.listTags t (c.base location.host) location.name w).2.note
          (.tagsFound names.length location.host location.name)) := by
  simp only [imageTags]
  generalize c.listTags t (c.base location.host) location.name w = listed at h
  obtain ⟨answer, w'⟩ := listed
  subst h
  rfl

theorem imageTags_eq_gather {names : List String} {answer : String → Except RegistryError String}
    (hlisted : (c.listTags t (c.base location.host) location.name w).1 = .ok names)
    (hanswer : ∀ tag ∈ names, ∀ w,
      (c.requestDigest t (c.base location.host) location.name tag w).1 = answer tag) :
    (c.imageTags t location w).1 = gather answer names := by
  rw [imageTags_of_ok hlisted]
  exact requestDigests_eq_gather names hanswer _

end ImageTags

/-- If the manifest requests for each listed tag are answered in one way, then overlapping lookups
give what lookups one after the other give, in whatever order their answers arrive:

* however they have gone on, no more of them are under way than may be, they can come to an end, and
  every end that they come to is the result; they cannot go on for ever;
* the result is a list exactly if each tag that is not gone has a digest: the list of these tags in
  order, with their digests and without a time;
* otherwise it is the error of the first tag whose lookup fails;
* an image is resolved to the first tag of the list with the digest; it is not found if there is a
  list and no tag on it has the digest, and any error of the list is passed on. -/
theorem imageTags_overlapping (t : Transport σ) (c : DistributionClient) (location : ImageLocation)
    (w : Wire σ) (names : List String) (responses : String → Option HttpResponse)
    (hlisted : (c.listTags t (c.base location.host) location.name w).1 = .ok names)
    (hassigned : ∀ tag ∈ names,
      Assigns t c (c.base location.host) location.name tag (responses tag)) :
    let base := c.base location.host
    let name := location.name
    let listed := (c.listTags t base name w).2.note (.tagsFound names.length location.host name)
    let result := (c.imageTags t location w).1
    (∀ s, DigestLookups.Run t c base name (.begin names listed) s →
      s.underWay.length ≤ DigestLookups.maxLookups ∧
      (∀ r, s.Ends r → r = result) ∧
      ∃ s', DigestLookups.Run t c base name s s' ∧ s'.Ends result) ∧
    (WellFounded fun s' s => DigestLookups.Step t c base name s s') ∧
    (∀ tags, result = .ok tags ↔
      List.Forall₂ (fun tag found => ∃ digest, lookupAnswer name tag (responses tag) = .ok digest ∧
          found = ⟨tag, digest, .epoch, "", ""⟩)
        (names.filter fun tag => ¬ IsGone (responses tag)) tags) ∧
    (∀ error, result = .error error ↔
      ∃ before tag after, names = before ++ tag :: after ∧
        (∀ earlier ∈ before, IsGone (responses earlier) ∨
          ∃ digest, lookupAnswer name earlier (responses earlier) = .ok digest) ∧
        lookupAnswer name tag (responses tag) = .error error ∧ ¬ IsGone (responses tag)) ∧
    ∀ imageUrl digest, location = .ofUrl imageUrl →
      let resolved := (c.resolve t imageUrl digest w).1
      (∀ tag, resolved = .ok tag ↔
        ∃ before found after, result = .ok (before ++ found :: after) ∧ found.tag = tag ∧
          found.digest = digest ∧ ∀ earlier ∈ before, earlier.digest ≠ digest) ∧
      ((∃ what, resolved = .error (.notFound what)) ↔
        ∃ tags, result = .ok tags ∧ ∀ found ∈ tags, found.digest ≠ digest) ∧
      ∀ error, result = .error error → resolved = .error error := by
  intro base name listed result
  have hanswer : ∀ tag ∈ names, ∀ w : Wire σ, (c.requestDigest t base name tag w).1 =
      lookupAnswer name tag (responses tag) :=
    fun tag htag => requestDigest_of_assigns (hassigned tag htag)
  have hresult : result = gather (fun tag => lookupAnswer name tag (responses tag)) names :=
    imageTags_eq_gather hlisted hanswer
  have hgone : ∀ tag, (∃ what, lookupAnswer name tag (responses tag) = .error (.notFound what)) ↔
      IsGone (responses tag) :=
    fun tag => lookupAnswer_isGone_iff name tag (responses tag)
  have herror : ∀ error, result = .error error ↔ _ :=
    fun error => hresult ▸ gather_eq_error_iff hgone names error
  refine ⟨fun s hrun => ?_, DigestLookups.wellFounded_step t c base name,
    fun tags => hresult ▸ gather_eq_ok_iff hgone names tags, herror, ?_⟩
  · have hagrees := (DigestLookups.agrees_begin _ names listed).run hanswer hrun
    refine ⟨DigestLookups.length_underWay_le (Nat.zero_le _) hrun,
      fun r hends => (hagrees.eq_of_ends hends).trans hresult.symm, ?_⟩
    obtain ⟨s', r, hrest, hends⟩ := DigestLookups.exists_run_ends t c base name s
    obtain rfl : r = result := ((hagrees.run hanswer hrest).eq_of_ends hends).trans hresult.symm
    exact ⟨s', hrest, hends⟩
  · rintro imageUrl digest rfl
    refine ⟨resolve_eq_ok_iff t c imageUrl digest w, resolve_eq_notFound_iff ?_,
      fun error => resolve_of_error⟩
    -- a tag that is gone is left out, so it is never the reason why there is no list
    intro what hwhat
    obtain ⟨-, tag, -, -, -, htag, hother⟩ := (herror _).mp hwhat
    exact hother ((hgone tag).mp ⟨what, htag⟩)

/-- A server with a list of four tags, one of them twice, of which one is gone. -/
def fourTags : Transport Unit where
  send request _ :=
    (match request.address with
      | "https://r.test/v2/n/tags/list" =>
        some ⟨request.url, 200, [], "\x7b\"tags\":[\"1\",\"old\",\"2\",\"1\"]\x7d".toUTF8⟩
      | "https://r.test/v2/n/manifests/1" =>
        some ⟨request.url, 200, [("docker-content-digest", "sha:a")], .empty⟩
      | "https://r.test/v2/n/manifests/2" =>
        some ⟨request.url, 200, [("docker-content-digest", "sha:b")], .empty⟩
      | _ => some ⟨request.url, 404, [], .empty⟩, ())

theorem imageTags_overlapping_fourTags :
    let names := ["1", "old", "2", "1"]
    let listed := (someClient.listTags fourTags "https://r.test" "n" ⟨(), []⟩).2.note
      (.tagsFound 4 "r.test" "n")
    let result : Except RegistryError (List ImageTag) :=
      .ok [.ofDigest "1" "sha:a", .ofDigest "2" "sha:b", .ofDigest "1" "sha:a"]
    (∀ s r, DigestLookups.Run fourTags someClient "https://r.test" "n" (.begin names listed) s →
      s.Ends r → r = result) ∧
    (someClient.resolve fourTags "r.test/n" "sha:b" ⟨(), []⟩).1 = .ok "2" := by
  intro names listed result
  let location : ImageLocation := ⟨"r.test", "", "n"⟩
  let url (tag : String) : Url := ⟨true, "r.test", none, "/v2/n/manifests/" ++ tag, none, none⟩
  let request (tag : String) : HttpRequest :=
    someClient.manifestRequest (manifestAddress "https://r.test" "n" tag) (url tag)
  have hlisted : (someClient.listTags fourTags "https://r.test" "n" ⟨(), []⟩).1 = .ok names := by
    decide +kernel
  have hurl : ∀ tag ∈ names, Url.parse? (manifestAddress "https://r.test" "n" tag) =
      some (url tag) := by decide +kernel
  obtain ⟨hruns, -, hok, -, hresolved⟩ :=
    imageTags_overlapping fourTags someClient location ⟨(), []⟩ names
      (fun tag => (fourTags.send (request tag) ()).1) hlisted
      fun tag htag => .sent (hurl tag htag) fun _ => rfl
  have hresult : (someClient.imageTags fourTags location ⟨(), []⟩).1 = result := by
    refine (hok _).mpr ?_
    have hnames : (names.filter fun tag => ¬ IsGone (fourTags.send (request tag) ()).1) =
        ["1", "2", "1"] := by decide +kernel
    rw [hnames]
    refine .cons ⟨"sha:a", ?_, rfl⟩ (.cons ⟨"sha:b", ?_, rfl⟩ (.cons ⟨"sha:a", ?_, rfl⟩ .nil))
    all_goals decide +kernel
  refine ⟨fun s r hrun hends => ((hruns s hrun).2.1 r hends).trans hresult, ?_⟩
  have hlocation : location = .ofUrl "r.test/n" := by decide +kernel
  obtain ⟨hfirst, -, -⟩ := hresolved "r.test/n" "sha:b" hlocation
  exact (hfirst "2").mpr ⟨[.ofDigest "1" "sha:a"], .ofDigest "2" "sha:b",
    [.ofDigest "1" "sha:a"], hresult, rfl, rfl, by decide⟩

end DistributionClient

end ImageFreshness
