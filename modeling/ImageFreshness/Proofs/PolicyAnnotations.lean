import ImageFreshness.Pattern.Compile
import ImageFreshness.Policy.Annotations
import ImageFreshness.Proofs.Lists
import ImageFreshness.Text.Cut
import ImageFreshness.Text.Digits
import Mathlib.Data.List.Basic

/-!
# Policies written as annotations

A valid policy that is written as annotations, option by option, is read back as it was
(`Policy.ofAnnotations_written`): white space around the values, the order of the annotations and
annotations under other keys make no difference, and no option is taken for another.
-/

namespace ImageFreshness

namespace Text

/-- A text that is white space. -/
def Blank (s : String) : Prop := ∀ c ∈ s.toList, isBlank c = true

/-- A text that neither is empty nor has white space at an end. -/
structure Bare (s : String) : Prop where
  nonempty : s.toList ≠ []
  first : ∀ c, s.toList.head? = some c → isBlank c = false
  last : ∀ c, s.toList.getLast? = some c → isBlank c = false

theorem Bare.of_forall {s : String} (hne : s.toList ≠ [])
    (h : ∀ c ∈ s.toList, isBlank c = false) : Bare s :=
  ⟨hne, fun c hc => h c (List.mem_of_head? hc), fun c hc => h c (List.mem_of_getLast? hc)⟩

theorem Bare.of_all {s : String} (hne : s.toList ≠ [])
    (h : s.toList.all (fun c => !isBlank c) = true) : Bare s := by
  refine .of_forall hne fun c hc => ?_
  simpa using List.all_eq_true.mp h c hc

theorem Blank.of_all {s : String} (h : s.toList.all isBlank = true) : Blank s :=
  List.all_eq_true.mp h

/-- White space around a text is all that is trimmed. -/
theorem trim_padded {before s after : String} (hbefore : Blank before) (hs : Bare s)
    (hafter : Blank after) : trim (before ++ s ++ after) = s := by
  have hstart : ((before ++ s ++ after).toList).dropWhile isBlank =
      s.toList ++ after.toList := by
    rw [String.toList_append, String.toList_append, List.append_assoc]
    refine dropWhile_append hbefore fun c hc => hs.first c ?_
    rwa [List.head?_append_of_ne_nil _ hs.nonempty] at hc
  have hend : (s.toList ++ after.toList).reverse.dropWhile isBlank = s.toList.reverse := by
    rw [List.reverse_append]
    refine dropWhile_append ?_ fun c hc => hs.last c ?_
    · intro c hc
      exact hafter c (List.mem_reverse.mp hc)
    · rwa [List.head?_reverse] at hc
  rw [trim, stripEnds, hstart, hend, List.reverse_reverse, String.ofList_toList]

theorem eq_false_of_head?_dropWhile {p : Char → Bool} {cs : List Char} {c : Char}
    (h : (cs.dropWhile p).head? = some c) : p c = false := by
  have hhead := List.head?_dropWhile_not p cs
  rwa [h] at hhead

theorem stripEnds_prefix_dropWhile (p : Char → Bool) (cs : List Char) :
    stripEnds p cs <+: cs.dropWhile p := by
  rw [← List.reverse_suffix, stripEnds, List.reverse_reverse]
  exact List.dropWhile_suffix p

/-- Nothing is left to trim in a text that is trimmed. -/
theorem bare_trim {s : String} (h : trim s ≠ "") : Bare (trim s) := by
  have hchars : (trim s).toList = stripEnds isBlank s.toList := String.toList_ofList
  have hne : stripEnds isBlank s.toList ≠ [] := by
    rwa [← hchars, ne_eq, String.toList_eq_nil_iff]
  refine ⟨hchars ▸ hne, fun c hc => ?_, fun c hc => ?_⟩
  · obtain ⟨rest, hrest⟩ := stripEnds_prefix_dropWhile isBlank s.toList
    have hhead : (s.toList.dropWhile isBlank).head? = some c := by
      rw [← hrest, List.head?_append_of_ne_nil _ hne, ← hchars, hc]
    exact eq_false_of_head?_dropWhile hhead
  · rw [hchars, stripEnds, List.getLast?_reverse] at hc
    exact eq_false_of_head?_dropWhile hc

theorem isBlank_of_isDigit {c : Char} (h : c.isDigit = true) : isBlank c = false := by
  simp only [Char.isDigit, Bool.and_eq_true, decide_eq_true_eq] at h
  have hmin : 48 ≤ c.toNat := h.1
  have hmax : c.toNat ≤ 57 := h.2
  simp only [isBlank, Bool.or_eq_false_iff, Bool.and_eq_false_iff, decide_eq_false_iff_not,
    beq_eq_false_iff_ne]
  omega

namespace Decimal

theorem natural?_ofNat (n : Nat) : natural? (ofNat n) = some n := by
  have hdigits : (ofNat n).all Char.isDigit = true :=
    List.all_eq_true.mpr fun c hc => isDigit_of_mem_ofNat hc
  rw [natural?, if_pos ⟨ofNat_ne_nil n, hdigits⟩]
  exact congrArg some (value_ofNat n)

/-- A number of 64 bits is read back from its text. -/
theorem signed?_ofInt {n : Int} (hmin : -(maxSigned + 1 : Int) ≤ n) (hmax : n ≤ maxSigned) :
    signed? (ofInt n) = some n := by
  unfold ofInt
  by_cases hneg : n < 0
  · rw [if_pos hneg]
    have hbound : n.natAbs ≤ maxSigned + 1 := by omega
    simp only [signed?, natural?_ofNat, Option.bind_eq_bind, Option.bind_some, if_pos hbound]
    exact congrArg some (by omega)
  · rw [if_neg hneg]
    have hbound : n.natAbs ≤ maxSigned := by omega
    have hread := natural?_ofNat n.natAbs
    have hhead : ∀ c rest, ofNat n.natAbs = c :: rest → c.isDigit = true := fun c rest hdigits =>
      isDigit_of_mem_ofNat (n := n.natAbs) (by simp [hdigits])
    unfold signed?
    split
    · next rest hdigits => cases hhead _ _ hdigits
    · split
      · next rest hdigits => cases hhead _ _ hdigits
      · rw [hread, Option.bind_eq_bind, Option.bind_some, if_pos hbound]
        exact congrArg some (by omega)

theorem signed?_le {cs : List Char} {n : Int} (h : signed? cs = some n) : n ≤ maxSigned := by
  unfold signed? at h
  split at h
  · obtain ⟨k, -, hk⟩ := Option.bind_eq_some_iff.mp h
    obtain ⟨-, hn⟩ := Option.ite_none_right_eq_some.mp hk
    have hneg : n = -(k : Int) := (Option.some.inj hn).symm
    omega
  · obtain ⟨k, -, hk⟩ := Option.bind_eq_some_iff.mp h
    obtain ⟨hmax, hn⟩ := Option.ite_none_right_eq_some.mp hk
    rw [← Option.some.inj hn]
    exact Int.ofNat_le.mpr hmax

end Decimal

end Text

theorem Pattern.compile?_source [PatternEngine] (pattern : Pattern) :
    compile? pattern.source = some pattern := by
  obtain ⟨source, isMatch, compiles⟩ := pattern
  unfold compile?
  split
  · next other hother =>
    obtain rfl := Option.some.inj (compiles.symm.trans hother)
    rfl
  · next hnone =>
    rw [compiles] at hnone
    cases hnone

theorem Pattern.source_of_compile? [PatternEngine] {source : String} {pattern : Pattern}
    (h : compile? source = some pattern) : pattern.source = source := by
  unfold compile? at h
  split at h
  · exact congrArg Pattern.source (Option.some.inj h.symm)
  · cases h

/-! ### Keys -/

open Text

namespace PolicyOption

theorem name_injective : Function.Injective name := by
  intro a b h
  cases a <;> cases b <;> first | rfl | exact absurd h (by decide)

theorem dot_notMem_name (option : PolicyOption) : '.' ∉ option.name.toList := by
  cases option <;> decide

/-- A key tells its option and its container apart, whatever the container is called: the name of
    the option ends at the first dot. -/
theorem key_inj {option option' : PolicyOption} {container container' : String} :
    option.key container = option'.key container' ↔ option = option' ∧ container = container' := by
  have hkey (option : PolicyOption) (container : String) : (option.key container).toList =
      option.name.toList ++ '.' :: ("version-checker.io/".toList ++ container.toList) := by
    simp [key, annotationKey]
  constructor
  · intro h
    have hcut := congrArg (cutFirst '.') (congrArg String.toList h)
    rw [hkey, hkey, cutFirst_append_cons (dot_notMem_name option),
      cutFirst_append_cons (dot_notMem_name option')] at hcut
    obtain ⟨hname, hrest⟩ := Prod.mk.inj (Option.some.inj hcut)
    exact ⟨name_injective (String.toList_injective hname),
      String.toList_injective (List.append_cancel_left hrest)⟩
  · rintro ⟨rfl, rfl⟩
    rfl

/-- No two options of a container have one key. -/
theorem key_injective (container : String) : Function.Injective (key · container) :=
  fun _ _ h => (key_inj.mp h).1

def all : List PolicyOption :=
  [.enable, .useDigest, .resolveDigest, .useMetadata, .pattern, .pinMajor, .pinMinor, .pinPatch,
    .overrideUrl]

theorem mem_all (option : PolicyOption) : option ∈ all := by
  cases option <;> decide

/-- The annotations in which the options of a container are written that are not left out. -/
def annotations (written : PolicyOption → Option String) (container : String) : Annotations :=
  all.filterMap fun option => (written option).map fun value => (option.key container, value)

theorem mem_annotations {written : PolicyOption → Option String} {container : String}
    {option : PolicyOption} {value : String} :
    (option.key container, value) ∈ annotations written container ↔
      written option = some value := by
  simp only [annotations, List.mem_filterMap, Option.map_eq_some_iff, Prod.mk.injEq]
  constructor
  · rintro ⟨other, -, _, hvalue, hkey, rfl⟩
    rw [← key_injective container hkey, hvalue]
  · intro hvalue
    exact ⟨option, option.mem_all, value, hvalue, rfl, rfl⟩

/-- Options are found among annotations in any order, with others in between. -/
theorem lookup_annotations {written : PolicyOption → Option String} {container : String}
    {all foreign : Annotations} (hall : all.Perm (annotations written container ++ foreign))
    (hforeign : ∀ a ∈ foreign, ∀ option : PolicyOption, a.1 ≠ option.key container)
    (option : PolicyOption) : all.lookup (option.key container) = written option := by
  have hmem (value : String) :
      (option.key container, value) ∈ all ↔ written option = some value := by
    rw [hall.mem_iff, List.mem_append, mem_annotations, or_iff_left]
    intro hother
    exact hforeign _ hother option rfl
  cases hwritten : written option with
  | none =>
    refine List.lookup_eq_none_iff.mpr fun ⟨name, value⟩ hpair => ?_
    simp only [bne_iff_ne]
    rintro rfl
    rw [hmem value, hwritten] at hpair
    cases hpair
  | some value =>
    refine lookup_eq_some_of_mem ((hmem value).mpr hwritten) fun other hother => ?_
    exact Option.some.inj (((hmem other).mp hother).symm.trans hwritten)

end PolicyOption

/-! ### Texts of options -/

namespace Policy

open Decimal

def boolText (b : Bool) : String := if b then "true" else "false"

def pinText (n : Int) : String := String.ofList (ofInt n)

theorem bare_boolText (b : Bool) : Bare (boolText b) := by
  cases b with
  | false => exact .of_all (by decide) (by decide)
  | true => exact .of_all (by decide) (by decide)

theorem bare_pinText {n : Int} (hn : 0 ≤ n) : Bare (pinText n) := by
  have hchars : (pinText n).toList = ofNat n.natAbs := by
    rw [pinText, String.toList_ofList, ofInt, if_neg (Int.not_lt.mpr hn)]
  refine .of_forall ?_ fun c hc => ?_
  · rw [hchars]
    exact ofNat_ne_nil n.natAbs
  · rw [hchars] at hc
    exact isBlank_of_isDigit (isDigit_of_mem_ofNat hc)

/-- What is got for an option that has a value, or may be left out. -/
def Gets (value text? : Option String) (mayOmit : Prop) : Prop :=
  value = none ∧ mayOmit ∨ ∃ text, value = some text ∧ text? = some text

section Read

variable {get : PolicyOption → Option String} {option : PolicyOption}

theorem readBool_boolText (b : Bool) : readBool option (boolText b) = .ok b := by
  cases b <;> rfl

theorem readOption_bool {missing b : Bool}
    (h : Gets (get option) (some (boolText b)) (b = missing)) :
    readOption (get option) missing (readBool option) = .ok b := by
  rcases h with ⟨hget, rfl⟩ | ⟨text, hget, htext⟩
  · rw [hget]
    rfl
  · rw [hget, ← Option.some.inj htext]
    exact readBool_boolText b

theorem readOption_pin {pin : Option Int} (hpin : ∀ n, pin = some n → 0 ≤ n ∧ n ≤ maxSigned)
    (h : Gets (get option) (pin.map pinText) (pin.map pinText = none)) :
    readOption (get option) none (fun s => (readPin option s).map some) = .ok pin := by
  rcases h with ⟨hget, hunset⟩ | ⟨text, hget, htext⟩
  · rw [hget, Option.map_eq_none_iff.mp hunset]
    rfl
  · obtain ⟨n, rfl, rfl⟩ := Option.map_eq_some_iff.mp htext
    obtain ⟨hmin, hmax⟩ := hpin n rfl
    have hread : signed? (pinText n).toList = some n := by
      rw [pinText, String.toList_ofList]
      exact signed?_ofInt (by omega) hmax
    simp only [hget, readOption, readPin, hread, if_pos hmin]
    rfl

theorem filter_overrideUrl {url : Option String} (hbare : ∀ set, url = some set → Bare set)
    (h : Gets (get option) url (url = none)) : (get option).filter (· ≠ "") = url := by
  rcases h with ⟨hget, rfl⟩ | ⟨text, hget, rfl⟩
  · rw [hget]
    rfl
  · have hne : text ≠ "" := by
      rintro rfl
      exact (hbare "" rfl).nonempty rfl
    rw [hget]
    simp [hne]

end Read

/-! ### Written options -/

section AnyEngine

variable [PatternEngine]

/-- A policy that may be asked for. -/
structure Valid (p : Policy) : Prop where
  pin : ∀ n, p.pinMajor = some n ∨ p.pinMinor = some n ∨ p.pinPatch = some n →
    0 ≤ n ∧ n ≤ maxSigned
  pattern : ∀ pattern, p.pattern = some pattern → Bare pattern.source
  overrideUrl : ∀ url, p.overrideUrl = some url → Bare url
  /-- Where digests are compared, versions are not filtered. -/
  useDigest : p.useDigest = true → p.pattern = none ∧ p.pinMajor = none ∧ p.pinMinor = none ∧
    p.pinPatch = none ∧ p.useMetadata = false

def optionText? (p : Policy) : PolicyOption → Option String
  | .enable => some "true"
  | .useDigest => some (boolText p.useDigest)
  | .resolveDigest => some (boolText p.resolveDigest)
  | .useMetadata => some (boolText p.useMetadata)
  | .pattern => p.pattern.map (·.source)
  | .pinMajor => p.pinMajor.map pinText
  | .pinMinor => p.pinMinor.map pinText
  | .pinPatch => p.pinPatch.map pinText
  | .overrideUrl => p.overrideUrl

/-- Whether an option may be left out. -/
def MayOmit (p : Policy) (testAll : Bool) : PolicyOption → Prop
  | .enable => testAll = true
  | .useDigest => p.useDigest = false
  | .resolveDigest => p.resolveDigest = false
  | .useMetadata => p.useMetadata = false
  | option => p.optionText? option = none

/-- How an option may be written: not at all, or with white space around its text. -/
inductive Writes (p : Policy) (testAll : Bool) (option : PolicyOption) : Option String → Prop where
  | omitted : p.MayOmit testAll option → Writes p testAll option none
  | padded {text before after : String} : p.optionText? option = some text → Blank before →
      Blank after → Writes p testAll option (some (before ++ text ++ after))

theorem Valid.bare {p : Policy} (h : p.Valid) {option : PolicyOption} {text : String}
    (htext : p.optionText? option = some text) : Bare text := by
  have hpin {pin : Option Int} (hset : ∀ n, pin = some n → 0 ≤ n)
      (htext : pin.map pinText = some text) : Bare text := by
    obtain ⟨n, hn, rfl⟩ := Option.map_eq_some_iff.mp htext
    exact bare_pinText (hset n hn)
  cases option with
  | enable => exact Option.some.inj htext ▸ bare_boolText true
  | useDigest => exact Option.some.inj htext ▸ bare_boolText p.useDigest
  | resolveDigest => exact Option.some.inj htext ▸ bare_boolText p.resolveDigest
  | useMetadata => exact Option.some.inj htext ▸ bare_boolText p.useMetadata
  | pattern =>
    obtain ⟨pattern, hpattern, rfl⟩ := Option.map_eq_some_iff.mp htext
    exact h.pattern pattern hpattern
  | pinMajor => exact hpin (fun n hn => (h.pin n (Or.inl hn)).1) htext
  | pinMinor => exact hpin (fun n hn => (h.pin n (Or.inr (Or.inl hn))).1) htext
  | pinPatch => exact hpin (fun n hn => (h.pin n (Or.inr (Or.inr hn))).1) htext
  | overrideUrl => exact h.overrideUrl text htext

theorem Writes.gets {p : Policy} (hvalid : p.Valid) {testAll : Bool} {option : PolicyOption}
    {annotations : Annotations} {container : String}
    (h : p.Writes testAll option (annotations.lookup (option.key container))) :
    Gets (optionValue annotations container option) (p.optionText? option)
      (p.MayOmit testAll option) := by
  unfold Gets optionValue
  generalize annotations.lookup (option.key container) = value at h
  cases h with
  | omitted homit => exact Or.inl ⟨rfl, homit⟩
  | padded htext hbefore hafter =>
    have htrim := trim_padded hbefore (hvalid.bare htext) hafter
    exact Or.inr ⟨_, congrArg some htrim, htext⟩

theorem readOption_pattern {get : PolicyOption → Option String} {option : PolicyOption}
    {pattern : Option Pattern} (hbare : ∀ set, pattern = some set → Bare set.source)
    (h : Gets (get option) (pattern.map (·.source)) (pattern.map (·.source) = none)) :
    readOption (get option) none readPattern = .ok pattern := by
  rcases h with ⟨hget, hunset⟩ | ⟨text, hget, htext⟩
  · rw [hget, Option.map_eq_none_iff.mp hunset]
    rfl
  · obtain ⟨set, rfl, rfl⟩ := Option.map_eq_some_iff.mp htext
    have hne : set.source ≠ "" := by
      intro hempty
      exact (hbare set rfl).nonempty (by rw [hempty]; rfl)
    rw [hget, readOption, readPattern, if_neg hne, set.compile?_source]

/-- The options of a policy are read back whether or not those that may be left out are. -/
theorem readOptions_eq {p : Policy} (hvalid : p.Valid) {get : PolicyOption → Option String}
    {testAll : Bool}
    (h : ∀ option, Gets (get option) (p.optionText? option) (p.MayOmit testAll option)) :
    readOptions get = .ok p := by
  have hmajor := readOption_pin (fun n hn => hvalid.pin n (Or.inl hn)) (h .pinMajor)
  have hminor := readOption_pin (fun n hn => hvalid.pin n (Or.inr (Or.inl hn))) (h .pinMinor)
  have hpatch := readOption_pin (fun n hn => hvalid.pin n (Or.inr (Or.inr hn))) (h .pinPatch)
  have hpattern := readOption_pattern hvalid.pattern (h .pattern)
  have hurl := filter_overrideUrl hvalid.overrideUrl (h .overrideUrl)
  simp only [readOptions, readOption_bool (h .useDigest), readOption_bool (h .resolveDigest),
    readOption_bool (h .useMetadata), hpattern, hmajor, hminor, hpatch, hurl]
  rfl

theorem Valid.firstConflict_eq_none {p : Policy} (h : p.Valid) : p.firstConflict = none := by
  unfold firstConflict
  cases hdigest : p.useDigest with
  | false => rfl
  | true =>
    obtain ⟨hpattern, hmajor, hminor, hpatch, hmetadata⟩ := h.useDigest hdigest
    simp [hpattern, hmajor, hminor, hpatch, hmetadata]

/-- **A valid policy that is written as annotations is read back.** -/
theorem ofAnnotations_written {p : Policy} (hvalid : p.Valid) (container : String)
    (testAll : Bool) {written : PolicyOption → Option String}
    (hwritten : ∀ option, p.Writes testAll option (written option))
    {annotations foreign : Annotations}
    (hannotations : annotations.Perm (PolicyOption.annotations written container ++ foreign))
    (hforeign : ∀ a ∈ foreign, ∀ option : PolicyOption, a.1 ≠ option.key container) :
    ofAnnotations annotations container testAll = .ok (some p) := by
  have hgets (option : PolicyOption) :
      Gets (optionValue annotations container option) (p.optionText? option)
        (p.MayOmit testAll option) := by
    have hlookup := PolicyOption.lookup_annotations hannotations hforeign option
    exact Writes.gets hvalid (hlookup ▸ hwritten option)
  have henabled : readOption (optionValue annotations container .enable) testAll
      (readBool .enable) = .ok true := by
    refine readOption_bool ?_
    rcases hgets .enable with ⟨hget, homit⟩ | htext
    · exact Or.inl ⟨hget, homit.symm⟩
    · exact Or.inr htext
  simp only [ofAnnotations, henabled, readOptions_eq hvalid hgets]
  simp only [bind, Except.bind, hvalid.firstConflict_eq_none]
  rfl

end AnyEngine

/-- Releases of one major version, from a mirror. -/
def mirrored : Policy where
  useDigest := false
  resolveDigest := true
  pattern := Pattern.compile? "^v1"
  useMetadata := false
  pinMajor := some 1
  pinMinor := none
  pinPatch := none
  overrideUrl := some "mirror.example.com/app"

theorem mirrored_valid : mirrored.Valid where
  pin := by
    rintro n (hn | hn | hn)
    · obtain rfl := Option.some.inj hn
      decide
    · cases hn
    · cases hn
  pattern := by
    intro pattern hpattern
    have hsource : pattern.source = "^v1" := Pattern.source_of_compile? hpattern
    rw [hsource]
    exact .of_all (by decide) (by decide)
  overrideUrl := by
    intro url hurl
    obtain rfl := Option.some.inj hurl
    exact .of_all (by decide) (by decide)
  useDigest := by
    intro hdigest
    cases hdigest

/-- Of the booleans that are not set, one is left out and the other is written. -/
def mirroredTexts : PolicyOption → Option String
  | .enable => some ("" ++ "true" ++ "\n")
  | .useDigest => none
  | .resolveDigest => some (" " ++ "true" ++ "")
  | .useMetadata => some ("" ++ "false" ++ "")
  | .pattern => some (" " ++ "^v1" ++ " ")
  | .pinMajor => some ("\t" ++ "1" ++ "")
  | .pinMinor => none
  | .pinPatch => none
  | .overrideUrl => some ("" ++ "mirror.example.com/app" ++ " \n")

/-- These texts in no order, and one of another container that is no pattern. -/
def mirroredAnnotations : Annotations :=
  [("pin-major.version-checker.io/app", "\t1"),
    ("match-regex.version-checker.io/web", "("),
    ("override-url.version-checker.io/app", "mirror.example.com/app \n"),
    ("match-regex.version-checker.io/app", " ^v1 "),
    ("use-metadata.version-checker.io/app", "false"),
    ("enable.version-checker.io/app", "true\n"),
    ("resolve-sha-to-tags.version-checker.io/app", " true")]

theorem mirrored_writes (option : PolicyOption) :
    mirrored.Writes false option (mirroredTexts option) := by
  have hpattern : mirrored.optionText? .pattern = some "^v1" := by decide +kernel
  have hnone : Blank "" := .of_all (by decide)
  have hspace : Blank " " := .of_all (by decide)
  have htab : Blank "\t" := .of_all (by decide)
  have hline : Blank "\n" := .of_all (by decide)
  have hboth : Blank " \n" := .of_all (by decide)
  cases option with
  | enable => exact .padded rfl hnone hline
  | useDigest => exact .omitted rfl
  | resolveDigest => exact .padded rfl hspace hnone
  | useMetadata => exact .padded rfl hnone hnone
  | pattern => exact .padded hpattern hspace hspace
  | pinMajor => exact .padded rfl htab hnone
  | pinMinor => exact .omitted rfl
  | pinPatch => exact .omitted rfl
  | overrideUrl => exact .padded rfl hnone hboth

theorem ofAnnotations_written_mirrored :
    mirrored.Valid ∧ (∀ option, mirrored.Writes false option (mirroredTexts option)) ∧
      mirrored.pattern.isSome ∧
      ofAnnotations mirroredAnnotations "app" false = .ok (some mirrored) := by
  have hpattern : mirrored.pattern.isSome := by decide +kernel
  have hannotations : mirroredAnnotations.Perm (PolicyOption.annotations mirroredTexts "app" ++
      [("match-regex.version-checker.io/web", "(")]) := by decide +kernel
  have hforeign : ∀ a ∈ [("match-regex.version-checker.io/web", "(")],
      ∀ option : PolicyOption, a.1 ≠ option.key "app" := by
    intro a ha option
    obtain rfl := List.mem_singleton.mp ha
    cases option <;> decide
  exact ⟨mirrored_valid, mirrored_writes, hpattern,
    ofAnnotations_written mirrored_valid "app" false mirrored_writes hannotations hforeign⟩

end Policy

end ImageFreshness
