import ImageFreshness.Pattern.Compile
import ImageFreshness.Proofs.CacheEntries
import ImageFreshness.Proofs.PolicyAnnotations

/-!
# The annotations that a container reads

The policy of a container depends on nothing but what stands under the keys of its own options
(`Policy.ofAnnotations_congr`).  No annotation of another container stands under one of them, even
if the name of that container is made to look like the rest of a key: so containers of a pod cannot
change the policies of one another, nor the errors in them (`Policy.ofAnnotations_foreign`).
-/

namespace ImageFreshness

namespace Annotations

/-- The annotations with this value under a key, or with none there. -/
def set (annotations : Annotations) (key : String) (value : Option String) : Annotations :=
  (value.map fun text => (key, text)).toList ++ annotations.filter (·.1 ≠ key)

theorem lookup_set (annotations : Annotations) (key k : String) (value : Option String) :
    (annotations.set key value).lookup k = if k = key then value else annotations.lookup k := by
  have hrest := lookup_filter_ne annotations key k
  cases value with
  | none =>
    rw [set, Option.map_none, Option.toList_none, List.nil_append, hrest]
  | some text =>
    rw [set, Option.map_some, Option.toList_some, List.singleton_append, List.lookup_cons, hrest]
    by_cases hk : k = key
    · simp [hk]
    · simp [hk, beq_false_of_ne hk]

end Annotations

namespace Policy

section AnyEngine

variable [PatternEngine] {annotations annotations' : Annotations} {container : String}

theorem ofAnnotations_congr
    (h : ∀ option : PolicyOption, annotations.lookup (option.key container) =
      annotations'.lookup (option.key container)) (testAll : Bool) :
    ofAnnotations annotations container testAll = ofAnnotations annotations' container testAll := by
  have hget : optionValue annotations container = optionValue annotations' container := by
    funext option
    rw [optionValue, optionValue, h option]
  simp only [ofAnnotations, hget]

/-- **A container reads no annotations but its own.**  One of another container may be added,
    changed or removed, whatever that is called, and any number of annotations may differ, as long
    as the same stands under the keys of this container: its policy is the same, or the error in
    it. -/
theorem ofAnnotations_foreign (annotations : Annotations) (container : String) (testAll : Bool) :
    (∀ (other : String) (option : PolicyOption) (value : Option String), container ≠ other →
      ofAnnotations (annotations.set (option.key other) value) container testAll =
        ofAnnotations annotations container testAll) ∧
    ∀ annotations' : Annotations,
      (∀ option : PolicyOption, annotations.lookup (option.key container) =
        annotations'.lookup (option.key container)) →
      ofAnnotations annotations container testAll =
        ofAnnotations annotations' container testAll := by
  constructor
  · intro other option value hother
    apply ofAnnotations_congr
    intro own
    have hkey : own.key container ≠ option.key other := by
      intro heq
      exact hother (PolicyOption.key_inj.mp heq).2
    rw [annotations.lookup_set, if_neg hkey]
  · intro annotations' hagree
    exact ofAnnotations_congr hagree testAll

end AnyEngine

/-- Digests are to be compared, and a pin stands in the way of that. -/
def pinnedDigests : Annotations :=
  [("use-sha.version-checker.io/app", "true"), ("pin-major.version-checker.io/app", "1")]

/-- A container that is called like the rest of a key cannot take the error back, and one that is
    called `app` can. -/
theorem ofAnnotations_foreign_likeKey :
    let other := "version-checker.io/app"
    let allowed (container : String) : Annotations :=
      pinnedDigests.set (PolicyOption.useDigest.key container) (some "false")
    "app" ≠ other ∧
      ofAnnotations (allowed other) "app" true = .error (.conflict .pinMajor) ∧
      (∀ option : PolicyOption, pinnedDigests.lookup (option.key "app") =
        pinnedDigests.reverse.lookup (option.key "app")) ∧
      ofAnnotations pinnedDigests.reverse "app" true = .error (.conflict .pinMajor) ∧
      ofAnnotations (allowed "app") "app" true = .ok (some { empty with pinMajor := some 1 }) := by
  intro other allowed
  have hother : "app" ≠ other := by decide
  have hfails : ofAnnotations pinnedDigests "app" true = .error (.conflict .pinMajor) := by rfl
  have hagree : ∀ option : PolicyOption, pinnedDigests.lookup (option.key "app") =
      pinnedDigests.reverse.lookup (option.key "app") := by
    intro option
    cases option <;> decide
  obtain ⟨hforeign, hperm⟩ := ofAnnotations_foreign pinnedDigests "app" true
  refine ⟨hother, ?_, hagree, ?_, by rfl⟩
  · exact (hforeign other .useDigest (some "false") hother).trans hfails
  · exact (hperm pinnedDigests.reverse hagree).symm.trans hfails

end Policy

end ImageFreshness
