import ImageFreshness.Pattern.Compile
import ImageFreshness.Proofs.VersionTies
import ImageFreshness.Proofs.VersionVerdict
import Mathlib.Data.List.Lex

/-!
# The selected version where none has metadata

Versions without metadata are ordered by their numbers, with the empty tag in front.  So where only
these are candidates, the selected tag can be told in two steps: the first tag with the largest
numbers gives the text, and out of the tags with this text the first one that was made last is taken
(`Policy.latestVersion?_plain`).

The empty tag has the numbers of `0.0.0`, but is below it.
-/

namespace ImageFreshness

/-! ### The first of the greatest elements -/

/-- The first of the greatest elements of a list: all elements before it are less, and none after it
    is greater. -/
def IsFirstMax {α : Type} (less : α → α → Bool) (xs : List α) (r : α) : Prop :=
  ∃ before after, xs = before ++ r :: after ∧
    (∀ x ∈ before, less x r = true) ∧ ∀ x ∈ after, less r x = false

namespace IsFirstMax

variable {α : Type} {less : α → α → Bool} {xs : List α} {r x : α}

theorem mem (h : IsFirstMax less xs r) : r ∈ xs := by
  obtain ⟨before, after, rfl, -, -⟩ := h
  simp

theorem singleton (less : α → α → Bool) (r : α) : IsFirstMax less [r] r :=
  ⟨[], [], rfl, List.forall_mem_nil _, List.forall_mem_nil _⟩

/-- A further element that is not greater leaves the first of the greatest as it is. -/
theorem snoc_of_not_less (h : IsFirstMax less xs r) (hx : less r x = false) :
    IsFirstMax less (xs ++ [x]) r := by
  obtain ⟨before, after, rfl, hbefore, hafter⟩ := h
  refine ⟨before, after ++ [x], by simp, hbefore, ?_⟩
  intro y hy
  rcases List.mem_append.mp hy with hy | hy
  · exact hafter y hy
  · exact List.mem_singleton.mp hy ▸ hx

/-- A further element that is greater than all others takes the place of the first of the
    greatest. -/
theorem snoc_of_forall_less (h : ∀ y ∈ xs, less y x = true) : IsFirstMax less (xs ++ [x]) x :=
  ⟨xs, [], rfl, h, List.forall_mem_nil _⟩

/-- What is greater than the first of the greatest elements is greater than all of them, if an
    element that is not greater than another one is less than whatever this one is less than. -/
theorem forall_less (h : IsFirstMax less xs r) (hx : less r x = true)
    (htrans : ∀ y, less y r = true → less y x = true)
    (hweak : ∀ y ∈ xs, less r y = false → less y x = true) : ∀ y ∈ xs, less y x = true := by
  obtain ⟨before, after, rfl, hbefore, hafter⟩ := h
  intro y hy
  rcases List.mem_append.mp hy with hmem | hmem
  · exact htrans y (hbefore y hmem)
  · rcases List.mem_cons.mp hmem with rfl | hmem
    · exact hx
    · exact hweak y hy (hafter y hmem)

/-- None is greater than the first of the greatest elements. -/
theorem not_less (h : IsFirstMax less xs r) (hasymm : ∀ {y}, less y r = true → less r y = false)
    (hself : less r r = false) : ∀ y ∈ xs, less r y = false := by
  obtain ⟨before, after, rfl, hbefore, hafter⟩ := h
  intro y hy
  rcases List.mem_append.mp hy with hmem | hmem
  · exact hasymm (hbefore y hmem)
  · rcases List.mem_cons.mp hmem with rfl | hmem
    · exact hself
    · exact hafter y hmem

/-- The first of the greatest elements is so among the elements with a property too, if the elements
    with it are compared alike. -/
theorem filter {less' : α → α → Bool} {p : α → Bool} (h : IsFirstMax less xs r) (hr : p r = true)
    (hsame : ∀ x ∈ xs, p x = true → less' x r = less x r ∧ less' r x = less r x) :
    IsFirstMax less' (xs.filter p) r := by
  obtain ⟨before, after, rfl, hbefore, hafter⟩ := h
  refine ⟨before.filter p, after.filter p, ?_, ?_, ?_⟩
  · rw [List.filter_append, List.filter_cons_of_pos hr]
  · intro x hx
    obtain ⟨hmem, hp⟩ := List.mem_filter.mp hx
    rw [(hsame x (List.mem_append_left _ hmem) hp).1]
    exact hbefore x hmem
  · intro x hx
    obtain ⟨hmem, hp⟩ := List.mem_filter.mp hx
    rw [(hsame x (List.mem_append_right _ (List.mem_cons_of_mem r hmem)) hp).2]
    exact hafter x hmem

end IsFirstMax

/-! ### Tags without metadata -/

namespace ImageTag

def isBelow (a b : ImageTag) : Bool := a.version.lessThan b.version

def isOlder (a b : ImageTag) : Bool := a.created.before b.created

/-- Whether a tag says no more than numbers, or nothing. -/
def IsPlain (t : ImageTag) : Prop := t.version.hasMetadata = false

variable {a b c : ImageTag}

theorem version_eq_of_tag (h : a.tag = b.tag) : a.version = b.version :=
  congrArg TagVersion.parse h

theorem isBelow_of_not_isBelow (ha : a.IsPlain) (hb : b.IsPlain)
    (hbc : b.isBelow c = true) (hba : b.isBelow a = false) : a.isBelow c = true := by
  by_contra hac
  rcases TagVersion.lessThan_or_of_not_lessThan hbc (Bool.eq_false_iff.mpr hac) with
    hless | ⟨-, hkind⟩
  · rw [isBelow, hless] at hba
    cases hba
  · exact hkind (ha.trans hb.symm)

/-- Between tags that are not empty only the numbers count. -/
theorem isBelow_iff_of_ne (ha : a.IsPlain) (hb : b.IsPlain) (hatag : a.tag ≠ "")
    (hbtag : b.tag ≠ "") : a.isBelow b = true ↔ a.version.numbers < b.version.numbers := by
  have hkind : b.version.hasMetadata = true → a.version.hasMetadata = true := by
    intro h
    rw [hb] at h
    cases h
  rw [← TagVersion.compareParts_eq_gt_iff_of_plain hb ha, Std.OrientedCmp.gt_iff_lt, isBelow,
    TagVersion.lessThan_iff_compareParts (by simpa using hatag) (by simpa using hbtag) hkind]

/-- Only the empty tag is below another one and not above it. -/
theorem tag_ne_empty_of_isFirstMax {tags : List ImageTag} {first t : ImageTag}
    (h : IsFirstMax isBelow tags first) (ht : t ∈ tags) (htag : t.tag ≠ "") : first.tag ≠ "" := by
  have hasymm {t : ImageTag} (h : t.isBelow first = true) : first.isBelow t = false :=
    TagVersion.lessThan_asymm h
  have hnot := h.not_less hasymm (TagVersion.lessThan_self _) t ht
  intro hempty
  rw [isBelow, (TagVersion.lessThan_iff _ _).mpr (Or.inl ⟨by simpa using hempty, by simpa⟩)] at hnot
  cases hnot

end ImageTag

namespace Policy

open ImageTag

/-! ### The two steps -/

/-- The text of a tag is that of the first one with the greatest version, and out of the tags with
    this text it is the first one that was made last. -/
def IsTwoStepPick (tags : List ImageTag) (r : ImageTag) : Prop :=
  ∃ first, IsFirstMax isBelow tags first ∧ first.tag = r.tag ∧
    IsFirstMax isOlder (tags.filter (·.tag = r.tag)) r

variable {tags : List ImageTag} {r x : ImageTag}

theorem filter_tag_snoc (tags : List ImageTag) (x : ImageTag) (tag : String) :
    (tags ++ [x]).filter (·.tag = tag) =
      tags.filter (·.tag = tag) ++ if x.tag = tag then [x] else [] := by
  by_cases htag : x.tag = tag <;> simp [htag]

/-- A further tag with a later version is the first of the greatest, and the only one with its
    text. -/
theorem IsTwoStepPick.snoc_of_isBelow (h : IsTwoStepPick tags r)
    (hplain : ∀ t ∈ tags, t.IsPlain) (hx : r.isBelow x = true) :
    IsTwoStepPick (tags ++ [x]) x := by
  obtain ⟨first, hfirst, htag, -⟩ := h
  have hbelow : first.isBelow x = true := by rwa [isBelow, version_eq_of_tag htag]
  have hall : ∀ t ∈ tags, t.isBelow x = true := by
    refine hfirst.forall_less hbelow ?_ ?_
    · intro t ht
      exact TagVersion.lessThan_trans ht hbelow
    · intro t ht hnot
      exact isBelow_of_not_isBelow (hplain t ht) (hplain first hfirst.mem) hbelow hnot
  have hnone : tags.filter (·.tag = x.tag) = [] := by
    rw [List.filter_eq_nil_iff]
    intro t ht htext
    have hless := hall t ht
    rw [isBelow, version_eq_of_tag (of_decide_eq_true htext), TagVersion.lessThan_self] at hless
    cases hless
  refine ⟨x, .snoc_of_forall_less hall, rfl, ?_⟩
  rw [filter_tag_snoc, hnone, if_pos rfl]
  exact .singleton isOlder x

/-- A further tag with the text of the one that is kept, made later, is the first of those made
    last. -/
theorem IsTwoStepPick.snoc_of_isOlder (h : IsTwoStepPick tags r) (htext : r.tag = x.tag)
    (hx : r.isOlder x = true) : IsTwoStepPick (tags ++ [x]) x := by
  obtain ⟨first, hfirst, htag, hr⟩ := h
  have hnot : first.isBelow x = false := by
    rw [isBelow, version_eq_of_tag (htag.trans htext), TagVersion.lessThan_self]
  have hall : ∀ t ∈ tags.filter (·.tag = r.tag), t.isOlder x = true := by
    refine hr.forall_less hx ?_ ?_
    · intro t ht
      exact Instant.before_trans ht hx
    · intro t _ hnot
      exact Instant.before_of_not_before hx hnot
  refine ⟨first, hfirst.snoc_of_not_less hnot, htag.trans htext, ?_⟩
  rw [filter_tag_snoc, if_pos rfl, ← htext]
  exact .snoc_of_forall_less hall

theorem IsTwoStepPick.snoc_of_not_later (h : IsTwoStepPick tags r)
    (hx : laterVersion r x = false) : IsTwoStepPick (tags ++ [x]) r := by
  obtain ⟨first, hfirst, htag, hr⟩ := h
  rw [Bool.eq_false_iff, ne_eq, laterVersion_iff, not_or, not_and] at hx
  have hnot : first.isBelow x = false := by
    rw [isBelow, version_eq_of_tag htag]
    exact Bool.eq_false_iff.mpr hx.1
  refine ⟨first, hfirst.snoc_of_not_less hnot, htag, ?_⟩
  rw [filter_tag_snoc]
  by_cases htext : x.tag = r.tag
  · rw [if_pos htext]
    exact hr.snoc_of_not_less (Bool.eq_false_iff.mpr (hx.2 htext.symm))
  · rw [if_neg htext, List.append_nil]
    exact hr

theorem IsTwoStepPick.snoc (h : IsTwoStepPick tags r) (hplain : ∀ t ∈ tags, t.IsPlain)
    (x : ImageTag) : IsTwoStepPick (tags ++ [x]) (if laterVersion r x then x else r) := by
  by_cases hlater : laterVersion r x = true
  · rw [if_pos hlater]
    rcases (laterVersion_iff r x).mp hlater with hbelow | ⟨htext, holder⟩
    · exact h.snoc_of_isBelow hplain hbelow
    · exact h.snoc_of_isOlder htext holder
  · rw [if_neg hlater]
    exact h.snoc_of_not_later (Bool.eq_false_iff.mpr hlater)

/-- Out of tags without metadata the selected one can be told in two steps. -/
theorem isTwoStepPick_of_pickBest (h : pickBest laterVersion tags = some r)
    (hplain : ∀ t ∈ tags, t.IsPlain) : IsTwoStepPick tags r := by
  refine pickBest_induction
    (motive := fun tags r => (∀ t ∈ tags, t.IsPlain) → IsTwoStepPick tags r) ?_ ?_ h hplain
  · intro x _
    refine ⟨x, .singleton isBelow x, rfl, ?_⟩
    simpa using IsFirstMax.singleton isOlder x
  · intro tags r x ih hplain
    have hbefore : ∀ t ∈ tags, t.IsPlain := fun t ht => hplain t (List.mem_append_left _ ht)
    exact (ih hbefore).snoc hbefore x

/-! ### Candidates -/

section AnyEngine

variable [PatternEngine]

/-- A candidate of a policy that pins numbers: it has no metadata, and each number that is pinned is
    the one in the tag. -/
def IsPlainCandidate (policy : Policy) (t : ImageTag) : Prop :=
  t.version.hasMetadata = false ∧ (∀ n ∈ policy.pinMajor, n = t.version.major) ∧
    (∀ n ∈ policy.pinMinor, n = t.version.minor) ∧ (∀ n ∈ policy.pinPatch, n = t.version.patch)

instance (policy : Policy) (t : ImageTag) : Decidable (policy.IsPlainCandidate t) :=
  inferInstanceAs (Decidable (_ ∧ _ ∧ _ ∧ _))

/-- The candidates of a policy that pins numbers, as they are listed. -/
def plainCandidates (policy : Policy) (tags : List ImageTag) : List ImageTag :=
  tags.filter fun t => policy.IsPlainCandidate t

variable {policy : Policy}

theorem permits_iff_isPlainCandidate (hpattern : policy.pattern = none)
    (hmetadata : policy.useMetadata = false) (t : ImageTag) :
    policy.Permits t ↔ policy.IsPlainCandidate t := by
  simp [Permits, IsPlainCandidate, hpattern, hmetadata]

theorem latestVersion?_eq_pickBest (hpattern : policy.pattern = none)
    (hmetadata : policy.useMetadata = false) (tags : List ImageTag) :
    policy.latestVersion? tags = pickBest laterVersion (policy.plainCandidates tags) := by
  have hsame : policy.allowsVersion = fun t => decide (policy.IsPlainCandidate t) := by
    funext t
    rw [Bool.eq_iff_iff, decide_eq_true_eq, allowsVersion_iff,
      permits_iff_isPlainCandidate hpattern hmetadata]
  rw [latestVersion?, plainCandidates, hsame]

theorem isPlain_of_mem_plainCandidates {t : ImageTag} (h : t ∈ policy.plainCandidates tags) :
    t.IsPlain :=
  (of_decide_eq_true (List.mem_filter.mp h).2 : policy.IsPlainCandidate t).1

/-! ### The selection -/

/-- The candidates that are not the empty tag. -/
def namedCandidates (policy : Policy) (tags : List ImageTag) : List ImageTag :=
  (policy.plainCandidates tags).filter fun t => t.tag ≠ ""

theorem mem_namedCandidates {t : ImageTag} :
    t ∈ policy.namedCandidates tags ↔ t ∈ policy.plainCandidates tags ∧ t.tag ≠ "" := by
  rw [namedCandidates, List.mem_filter, decide_eq_true_eq]

theorem exists_isTwoStepPick (hpattern : policy.pattern = none)
    (hmetadata : policy.useMetadata = false) (hne : policy.plainCandidates tags ≠ []) :
    ∃ r, policy.latestVersion? tags = some r ∧
      IsTwoStepPick (policy.plainCandidates tags) r := by
  rw [latestVersion?_eq_pickBest hpattern hmetadata]
  obtain ⟨r, hr⟩ := Option.ne_none_iff_exists'.mp (mt pickBest_eq_none_iff.mp hne)
  exact ⟨r, hr, isTwoStepPick_of_pickBest hr fun _ => isPlain_of_mem_plainCandidates⟩

/-- Where only the empty tag is a candidate, the text does not tell candidates apart. -/
theorem filter_tag_of_named_eq_nil (hnone : policy.namedCandidates tags = []) {r : ImageTag}
    (hr : r ∈ policy.plainCandidates tags) :
    (policy.plainCandidates tags).filter (·.tag = r.tag) = policy.plainCandidates tags := by
  have hempty {t : ImageTag} (ht : t ∈ policy.plainCandidates tags) : t.tag = "" := by
    by_contra hne
    have hmem := mem_namedCandidates.mpr ⟨ht, hne⟩
    rw [hnone] at hmem
    cases hmem
  rw [List.filter_eq_self]
  intro t ht
  simp [hempty ht, hempty hr]

/-- Without a pattern and without metadata, the selected tag is one with the largest numbers of all
    candidates but the empty tag; its text is that of the first of these candidates that has them,
    and it is the first of the candidates with this text that was made last.  Where only the empty
    tag is a candidate, it is the first candidate that was made last; without a candidate there is
    none. -/
theorem latestVersion?_plain (hpattern : policy.pattern = none)
    (hmetadata : policy.useMetadata = false) (tags : List ImageTag) :
    (policy.namedCandidates tags ≠ [] → ∃ r first, policy.latestVersion? tags = some r ∧
      r.tag ≠ "" ∧ first.tag = r.tag ∧
      (∀ t ∈ policy.namedCandidates tags, t.version.numbers ≤ r.version.numbers) ∧
      IsFirstMax (fun a b => decide (a.version.numbers < b.version.numbers))
        (policy.namedCandidates tags) first ∧
      IsFirstMax isOlder ((policy.plainCandidates tags).filter (·.tag = r.tag)) r) ∧
    (policy.plainCandidates tags ≠ [] → policy.namedCandidates tags = [] →
      ∃ r, policy.latestVersion? tags = some r ∧
        IsFirstMax isOlder (policy.plainCandidates tags) r) ∧
    (policy.plainCandidates tags = [] → policy.latestVersion? tags = none) := by
  refine ⟨?_, ?_, ?_⟩
  · intro hnamed
    obtain ⟨t, ht⟩ := List.exists_mem_of_ne_nil _ hnamed
    obtain ⟨hcandidate, hne⟩ := mem_namedCandidates.mp ht
    obtain ⟨r, hr, first, hfirst, htag, holdest⟩ :=
      exists_isTwoStepPick hpattern hmetadata (List.ne_nil_of_mem hcandidate)
    have hfirstNe : first.tag ≠ "" := tag_ne_empty_of_isFirstMax hfirst hcandidate hne
    have hfirstPlain : first.IsPlain := isPlain_of_mem_plainCandidates hfirst.mem
    have hmax : IsFirstMax (fun a b => decide (a.version.numbers < b.version.numbers))
        (policy.namedCandidates tags) first := by
      refine hfirst.filter (by simpa using hfirstNe) fun x hx hxne => ?_
      have hxplain : x.IsPlain := isPlain_of_mem_plainCandidates hx
      have hxtag : x.tag ≠ "" := of_decide_eq_true hxne
      refine ⟨Bool.eq_iff_iff.mpr ?_, Bool.eq_iff_iff.mpr ?_⟩
      · rw [decide_eq_true_eq, isBelow_iff_of_ne hxplain hfirstPlain hxtag hfirstNe]
      · rw [decide_eq_true_eq, isBelow_iff_of_ne hfirstPlain hxplain hfirstNe hxtag]
    refine ⟨r, first, hr, htag ▸ hfirstNe, htag, ?_, hmax, holdest⟩
    intro x hx
    have hnot := hmax.not_less (fun h => decide_eq_false (lt_asymm (of_decide_eq_true h)))
      (decide_eq_false (lt_irrefl _)) x hx
    rw [← version_eq_of_tag htag]
    exact le_of_not_gt (of_decide_eq_false hnot)
  · intro hcandidate hnone
    obtain ⟨r, hr, first, -, -, holdest⟩ := exists_isTwoStepPick hpattern hmetadata hcandidate
    have hmem : r ∈ policy.plainCandidates tags := (List.mem_filter.mp holdest.mem).1
    rw [filter_tag_of_named_eq_nil hnone hmem] at holdest
    exact ⟨r, hr, holdest⟩
  · intro hnone
    rw [latestVersion?_eq_pickBest hpattern hmetadata, hnone]
    rfl

end AnyEngine

/-- A policy that pins the first number, for the witness below. -/
def pinned : Policy := { Policy.empty with pinMajor := some 1 }

/-- Two spellings of the latest version, and one of them twice at the latest time. -/
def pinnedTags : List ImageTag :=
  [taggedAt 3 "1.9" "a", taggedAt 5 "1.10" "b", taggedAt 9 "v1.10.0" "c", taggedAt 9 "1.11-rc1" "d",
    taggedAt 8 "1.10" "e", taggedAt 8 "1.10" "f", taggedAt 9 "2.0" "g"]

theorem latestVersion?_plain_pinnedTags :
    pinned.latestVersion? pinnedTags = some (taggedAt 8 "1.10" "e") ∧
    ∃ first, first.tag = "1.10" ∧
      IsFirstMax (fun a b => decide (a.version.numbers < b.version.numbers))
        (pinned.namedCandidates pinnedTags) first ∧
      IsFirstMax isOlder ((pinned.plainCandidates pinnedTags).filter (·.tag = "1.10"))
        (taggedAt 8 "1.10" "e") := by
  obtain ⟨r, first, hr, -, htag, -, hmax, holdest⟩ :=
    (@latestVersion?_plain _ pinned rfl rfl pinnedTags).1 (by decide)
  have hlatest : pinned.latestVersion? pinnedTags = some (taggedAt 8 "1.10" "e") := by decide
  rw [hlatest] at hr
  cases hr
  exact ⟨hlatest, first, htag, hmax, holdest⟩

/-- The empty tag has the numbers of `0.0.0` as well.  If it stands first, its text is not that of
    the selected tag: it does not count among those with the largest numbers. -/
theorem latestVersion?_plain_passes_emptyTag :
    ¬ ∀ (policy : Policy) (tags : List ImageTag), policy.pattern = none →
      policy.useMetadata = false → policy.namedCandidates tags ≠ [] →
      ∃ r, policy.latestVersion? tags = some r ∧
        (∀ t ∈ policy.namedCandidates tags, t.version.numbers ≤ r.version.numbers) ∧
        ∃ before first after, policy.plainCandidates tags = before ++ first :: after ∧
          first.version.numbers = r.version.numbers ∧
          (∀ t ∈ before, t.version.numbers ≠ r.version.numbers) ∧ first.tag = r.tag := by
  intro hall
  obtain ⟨r, hr, -, before, first, after, hsplit, -, hbefore, htag⟩ :=
    hall .empty [.ofDigest "" "a", .ofDigest "0.0.0" "b"] rfl rfl (by decide)
  have hlatest : Policy.empty.latestVersion? [.ofDigest "" "a", .ofDigest "0.0.0" "b"] =
      some (.ofDigest "0.0.0" "b") := by decide
  have hcandidates : Policy.empty.plainCandidates [.ofDigest "" "a", .ofDigest "0.0.0" "b"] =
      [.ofDigest "" "a", .ofDigest "0.0.0" "b"] := by decide
  rw [hlatest] at hr
  cases hr
  rw [hcandidates] at hsplit
  cases before with
  | nil =>
    obtain ⟨rfl, -⟩ := List.cons.inj hsplit
    exact absurd htag (by decide)
  | cons t before =>
    obtain ⟨rfl, -⟩ := List.cons.inj hsplit
    exact hbefore _ List.mem_cons_self (by decide)

end Policy

end ImageFreshness
