import ImageFreshness.Pattern.Compile
import ImageFreshness.Proofs.PolicyAnnotations

/-!
# What is wrong with annotations

The options of a container are checked one by one, each on its own value, and after that against
one another where digests are to be compared.  `Policy.Finds` says what a check finds.  Reading the
annotations fails exactly if some check finds an error, with the error of the first that does, and
a policy that is read is valid (`Policy.ofAnnotations_outcome`).
-/

namespace ImageFreshness

open Text

/-! ### Checks in order -/

section Checks

variable {γ ε α β : Type} {finds : γ → ε → Prop} {check : γ} {checks checks' : List γ} {e : ε}

/-- The first check that finds an error finds this one. -/
inductive FirstFinds (finds : γ → ε → Prop) : List γ → ε → Prop where
  | here {check : γ} {checks : List γ} {e : ε} : finds check e →
      FirstFinds finds (check :: checks) e
  | later {check : γ} {checks : List γ} {e : ε} : (∀ e', ¬ finds check e') →
      FirstFinds finds checks e → FirstFinds finds (check :: checks) e

theorem not_firstFinds_nil : ¬ FirstFinds finds [] e := nofun

theorem firstFinds_cons :
    FirstFinds finds (check :: checks) e ↔
      finds check e ∨ (∀ e', ¬ finds check e') ∧ FirstFinds finds checks e := by
  constructor
  · rintro (hfound | ⟨hnone, hlater⟩)
    · exact Or.inl hfound
    · exact Or.inr ⟨hnone, hlater⟩
  · rintro (hfound | ⟨hnone, hlater⟩)
    · exact .here hfound
    · exact .later hnone hlater

/-- Some error is the first one if any check finds one. -/
theorem exists_firstFinds_iff :
    (∃ e, FirstFinds finds checks e) ↔ ∃ check ∈ checks, ∃ e, finds check e := by
  induction checks with
  | nil => simp [not_firstFinds_nil]
  | cons check checks ih =>
    by_cases hfound : ∃ e, finds check e
    · obtain ⟨e, he⟩ := hfound
      exact iff_of_true ⟨e, .here he⟩ ⟨check, List.mem_cons_self, e, he⟩
    · have hnone : ∀ e, ¬ finds check e := fun e he => hfound ⟨e, he⟩
      simp only [firstFinds_cons, hnone, false_or, not_false_eq_true, implies_true, true_and, ih,
        List.mem_cons, exists_eq_or_imp, exists_false]

theorem firstFinds_append :
    FirstFinds finds (checks ++ checks') e ↔
      FirstFinds finds checks e ∨
        (∀ e', ¬ FirstFinds finds checks e') ∧ FirstFinds finds checks' e := by
  induction checks with
  | nil => simp [not_firstFinds_nil]
  | cons check checks ih =>
    rw [List.cons_append, firstFinds_cons, ih]
    by_cases hfound : ∃ e, finds check e
    · obtain ⟨e', he'⟩ := hfound
      have hsome : ¬ ∀ e, ¬ finds check e := fun hnone => hnone e' he'
      have hfirst : ¬ ∀ e, ¬ FirstFinds finds (check :: checks) e := fun hnone =>
        hnone e' (.here he')
      simp only [hsome, hfirst, firstFinds_cons (e := e), false_and, or_false]
    · have hnone : ∀ e, ¬ finds check e := fun e he => hfound ⟨e, he⟩
      simp only [firstFinds_cons, hnone, not_false_eq_true, implies_true, true_and, false_or]

/-- Two steps that fail with what their checks find, one after the other.  Of the second one this
    need only be known where the first one has gone well. -/
theorem bind_eq_error_append {x : Except ε α} {f : α → Except ε β}
    (hx : ∀ e, x = .error e ↔ FirstFinds finds checks e)
    (hf : ∀ a, x = .ok a → (f a = .error e ↔ FirstFinds finds checks' e)) :
    x >>= f = .error e ↔ FirstFinds finds (checks ++ checks') e := by
  rw [firstFinds_append, ← hx]
  cases x with
  | error e' =>
    have hsome : ¬ ∀ e, ¬ FirstFinds finds checks e := fun hnone => hnone e' ((hx e').mp rfl)
    change Except.error e' = Except.error e ↔ _
    simp only [Except.error.injEq, hsome, false_and, or_false]
  | ok a =>
    have hnone : ∀ e, ¬ FirstFinds finds checks e := fun e he => nomatch (hx e).mpr he
    simp only [hnone, not_false_eq_true, implies_true, true_and, ← hf a rfl, reduceCtorEq, false_or]
    exact Iff.rfl

/-- A step with one check, and further ones. -/
theorem bind_eq_error_cons {x : Except ε α} {f : α → Except ε β}
    (hx : ∀ e, x = .error e ↔ finds check e)
    (hf : ∀ a, x = .ok a → (f a = .error e ↔ FirstFinds finds checks e)) :
    x >>= f = .error e ↔ FirstFinds finds (check :: checks) e := by
  have hsingle (e : ε) : x = .error e ↔ FirstFinds finds [check] e := by
    rw [hx, firstFinds_cons, or_iff_left fun h => not_firstFinds_nil h.2]
  exact bind_eq_error_append hsingle hf

/-- The first element of a list with a property, where each is checked for it. -/
theorem find?_iff_firstFinds {p : α → Bool} {mk : α → γ} {error : α → ε} {xs : List α}
    (h : ∀ x ∈ xs, ∀ e, finds (mk x) e ↔ p x = true ∧ e = error x) :
    (∃ x, xs.find? p = some x ∧ e = error x) ↔ FirstFinds finds (xs.map mk) e := by
  induction xs with
  | nil => simp [not_firstFinds_nil]
  | cons x xs ih =>
    rw [List.map_cons, firstFinds_cons, ← ih fun y hy => h y (List.mem_cons_of_mem _ hy)]
    simp only [h x List.mem_cons_self, List.find?_cons]
    cases p x with
    | true => simp
    | false => simp

theorem bind_eq_ok_iff {x : Except ε α} {f : α → Except ε β} {b : β} :
    x >>= f = .ok b ↔ ∃ a, x = .ok a ∧ f a = .ok b := by
  cases x with
  | error e => exact iff_of_false nofun nofun
  | ok a =>
    constructor
    · intro h
      exact ⟨a, rfl, h⟩
    · rintro ⟨_, heq, h⟩
      obtain rfl := Except.ok.inj heq
      exact h

end Checks

/-! ### What is wrong with a value -/

/-- What the value of an option is. -/
inductive OptionKind where
  | boolean
  | pin
  | pattern
  | url

def PolicyOption.kind : PolicyOption → OptionKind
  | .enable | .useDigest | .resolveDigest | .useMetadata => .boolean
  | .pattern => .pattern
  | .pinMajor | .pinMinor | .pinPatch => .pin
  | .overrideUrl => .url

/-- What is looked at in the options of a container. -/
inductive PolicyCheck where
  | value (option : PolicyOption)
  | conflict (option : PolicyOption)
  deriving DecidableEq

namespace PolicyOption

/-- The options whose values are checked, in this order. -/
def readingOrder : List PolicyOption :=
  [.enable, .useDigest, .resolveDigest, .useMetadata, .pattern, .pinMajor, .pinMinor, .pinPatch]

/-- The options that filter versions, in the order in which they are held against the comparison of
    digests. -/
def conflictOrder : List PolicyOption := [.pattern, .pinMajor, .pinMinor, .pinPatch, .useMetadata]

theorem mem_readingOrder {option : PolicyOption} (h : option.kind ≠ .url) :
    option ∈ readingOrder := by
  cases option <;> first | decide | exact absurd rfl h

theorem mem_conflictOrder {option : PolicyOption} (h : option.kind = .pin) :
    option ∈ conflictOrder := by
  cases option <;> first | decide | cases h

end PolicyOption

namespace PolicyCheck

def option : PolicyCheck → PolicyOption
  | .value option => option
  | .conflict option => option

def order : List PolicyCheck :=
  PolicyOption.readingOrder.map .value ++ PolicyOption.conflictOrder.map .conflict

theorem value_mem_order {option : PolicyOption} (h : option ∈ PolicyOption.readingOrder) :
    .value option ∈ order := List.mem_append_left _ (List.mem_map_of_mem h)

theorem conflict_mem_order {option : PolicyOption} (h : option ∈ PolicyOption.conflictOrder) :
    .conflict option ∈ order := List.mem_append_right _ (List.mem_map_of_mem h)

end PolicyCheck

namespace Policy

/-! ### Reading values -/

section Values

variable {get : PolicyOption → Option String} {testAll : Bool} {option : PolicyOption}
  {e : PolicyError}

/-- A container is to be checked if its annotations say so.  If they say nothing, it depends. -/
def Enabled (get : PolicyOption → Option String) (testAll : Bool) : Prop :=
  get .enable = some "true" ∨ get .enable = none ∧ testAll = true

/-- The options that filter versions where they are set as they are. -/
inductive Filters (get : PolicyOption → Option String) : PolicyOption → Prop where
  | pattern {s : String} : get .pattern = some s → s ≠ "" → Filters get .pattern
  | pin {option : PolicyOption} {s : String} : option.kind = .pin →
      get option = some s → Filters get option
  | useMetadata : get .useMetadata = some "true" → Filters get .useMetadata

theorem readBool_eq_error_iff {s : String} :
    readBool option s = .error e ↔ s ≠ "true" ∧ s ≠ "false" ∧ e = .invalidBool option s := by
  unfold readBool
  split
  · simp
  · simp
  · next htrue hfalse =>
    rw [Except.error.injEq]
    exact ⟨fun h => ⟨htrue, hfalse, h.symm⟩, fun h => h.2.2.symm⟩

theorem readBool_eq_ok_iff {s : String} {b : Bool} :
    readBool option s = .ok b ↔ s = boolText b := by
  constructor
  · intro h
    unfold readBool at h
    split at h
    · rw [← Except.ok.inj h]
      rfl
    · rw [← Except.ok.inj h]
      rfl
    · cases h
  · rintro rfl
    exact readBool_boolText b

theorem readPin_eq_error_iff {s : String} :
    readPin option s = .error e ↔
      (∀ n, Decimal.signed? s.toList = some n → n < 0) ∧ e = .invalidPin option s := by
  unfold readPin
  split
  · next n hn =>
    split
    · next hmin => simp [hn, Int.not_lt.mpr hmin]
    · next hmin => simp [hn, Int.not_le.mp hmin, eq_comm]
  · next hnone => simp [hnone, eq_comm]

theorem readPin_eq_ok_iff {s : String} {n : Int} :
    readPin option s = .ok n ↔ Decimal.signed? s.toList = some n ∧ 0 ≤ n := by
  unfold readPin
  split
  · next m hm =>
    rw [hm, Option.some.injEq]
    split
    · next hmin =>
      rw [Except.ok.injEq]
      exact ⟨fun h => ⟨h, h ▸ hmin⟩, fun h => h.1⟩
    · next hmin =>
      refine iff_of_false nofun ?_
      rintro ⟨rfl, h⟩
      exact hmin h
  · next hnone => simp [hnone]

theorem readOption_eq_error_iff {α : Type} {value : Option String} {missing : α}
    {read : String → Except PolicyError α} :
    readOption value missing read = .error e ↔ ∃ s, value = some s ∧ read s = .error e := by
  cases value with
  | none => exact iff_of_false nofun nofun
  | some s => simp [readOption]

theorem readOption_eq_ok_iff {α : Type} {value : Option String} {missing a : α}
    {read : String → Except PolicyError α} :
    readOption value missing read = .ok a ↔
      value = none ∧ missing = a ∨ ∃ s, value = some s ∧ read s = .ok a := by
  cases value with
  | none => simp [readOption]
  | some s => simp [readOption]

theorem map_some_eq_error_iff {α : Type} {x : Except PolicyError α} :
    x.map some = .error e ↔ x = .error e := by
  cases x <;> simp [Except.map]

theorem map_some_eq_ok_iff {α : Type} {x : Except PolicyError α} {a : Option α} :
    x.map some = .ok a ↔ ∃ b, x = .ok b ∧ a = some b := by
  cases x <;> simp [Except.map, eq_comm]

theorem readBool_ok {missing b : Bool}
    (h : readOption (get option) missing (readBool option) = .ok b) :
    get option = some (boolText b) ∨ get option = none ∧ missing = b := by
  rcases readOption_eq_ok_iff.mp h with hnone | ⟨s, hs, hread⟩
  · exact Or.inr hnone
  · rw [readBool_eq_ok_iff.mp hread] at hs
    exact Or.inl hs

theorem enabled_iff {enabled : Bool}
    (h : readOption (get .enable) testAll (readBool .enable) = .ok enabled) :
    Enabled get testAll ↔ enabled = true := by
  unfold Enabled
  rcases readBool_ok h with hs | ⟨hnone, rfl⟩
  · cases enabled <;> simp [hs, boolText]
  · simp [hnone]

theorem readBool_true_iff {b : Bool}
    (h : readOption (get option) false (readBool option) = .ok b) :
    b = true ↔ get option = some "true" := by
  rcases readBool_ok h with hs | ⟨hnone, rfl⟩
  · cases b <;> simp [hs, boolText]
  · simp [hnone]

theorem filters_pin_iff (hkind : option.kind = .pin) :
    Filters get option ↔ ∃ s, get option = some s := by
  constructor
  · intro h
    cases h with
    | pattern => cases hkind
    | pin _ hs => exact ⟨_, hs⟩
    | useMetadata => cases hkind
  · rintro ⟨s, hs⟩
    exact .pin hkind hs

theorem filters_pattern_iff : Filters get .pattern ↔ ∃ s, get .pattern = some s ∧ s ≠ "" := by
  constructor
  · intro h
    cases h with
    | pattern hs hne => exact ⟨_, hs, hne⟩
    | pin hkind => cases hkind
  · rintro ⟨s, hs, hne⟩
    exact .pattern hs hne

theorem filters_useMetadata_iff : Filters get .useMetadata ↔ get .useMetadata = some "true" := by
  constructor
  · intro h
    cases h with
    | pin hkind => cases hkind
    | useMetadata hs => exact hs
  · exact .useMetadata

theorem readPin_ok {pin : Option Int} (hkind : option.kind = .pin)
    (h : readOption (get option) none (fun s => (readPin option s).map some) = .ok pin) :
    (pin.isSome = true ↔ Filters get option) ∧
      ∀ n, pin = some n → 0 ≤ n ∧ n ≤ Decimal.maxSigned := by
  rw [filters_pin_iff hkind]
  rcases readOption_eq_ok_iff.mp h with ⟨hnone, rfl⟩ | ⟨s, hs, hread⟩
  · simp [hnone]
  · obtain ⟨n, hn, rfl⟩ := map_some_eq_ok_iff.mp hread
    obtain ⟨hsigned, hmin⟩ := readPin_eq_ok_iff.mp hn
    refine ⟨iff_of_true rfl ⟨s, hs⟩, ?_⟩
    rintro _ ⟨⟩
    exact ⟨hmin, Decimal.signed?_le hsigned⟩

theorem bare_of_optionValue {annotations : Annotations} {container s : String}
    (h : optionValue annotations container option = some s) (hne : s ≠ "") : Bare s := by
  obtain ⟨value, -, rfl⟩ := Option.map_eq_some_iff.mp h
  exact bare_trim hne

end Values

/-! ### Values that are refused -/

section Findings

variable [PatternEngine] {get : PolicyOption → Option String} {testAll : Bool}
  {option : PolicyOption} {e : PolicyError}

/-- What the checks find.  Of a container that is not to be checked only that is looked at. -/
inductive Finds (get : PolicyOption → Option String) (testAll : Bool) :
    PolicyCheck → PolicyError → Prop where
  | bool {option : PolicyOption} {s : String} : option = .enable ∨ Enabled get testAll →
      option.kind = .boolean → get option = some s → s ≠ "true" → s ≠ "false" →
      Finds get testAll (.value option) (.invalidBool option s)
  | pattern {s : String} : Enabled get testAll → get .pattern = some s → s ≠ "" →
      Pattern.compile? s = none → Finds get testAll (.value .pattern) .invalidPattern
  | pin {option : PolicyOption} {s : String} : Enabled get testAll →
      option.kind = .pin → get option = some s →
      (∀ n, Decimal.signed? s.toList = some n → n < 0) →
      Finds get testAll (.value option) (.invalidPin option s)
  | conflict {option : PolicyOption} : Enabled get testAll → get .useDigest = some "true" →
      Filters get option → Finds get testAll (.conflict option) (.conflict option)

theorem readPattern_eq_error_iff {s : String} :
    readPattern s = .error e ↔ s ≠ "" ∧ Pattern.compile? s = none ∧ e = .invalidPattern := by
  unfold readPattern
  split
  · next hs => simp [hs]
  · next hs =>
    split
    · next hpattern => simp [hpattern]
    · next hpattern => simp [hs, hpattern, eq_comm]

theorem readPattern_eq_ok_iff {s : String} {pattern : Option Pattern} :
    readPattern s = .ok pattern ↔
      s = "" ∧ pattern = none ∨ s ≠ "" ∧ ∃ p, Pattern.compile? s = some p ∧ pattern = some p := by
  unfold readPattern
  split
  · next hs => simp [hs, eq_comm]
  · next hs =>
    split
    · next p hp => simp [hs, hp, eq_comm]
    · next hp => simp [hs, hp]

theorem readBool_finds {missing : Bool} (henabled : option = .enable ∨ Enabled get testAll)
    (hkind : option.kind = .boolean) :
    readOption (get option) missing (readBool option) = .error e ↔
      Finds get testAll (.value option) e := by
  rw [readOption_eq_error_iff]
  constructor
  · rintro ⟨s, hs, hread⟩
    obtain ⟨htrue, hfalse, rfl⟩ := readBool_eq_error_iff.mp hread
    exact .bool henabled hkind hs htrue hfalse
  · intro h
    cases h with
    | bool _ _ hs htrue hfalse => exact ⟨_, hs, readBool_eq_error_iff.mpr ⟨htrue, hfalse, rfl⟩⟩
    | pattern => cases hkind
    | pin _ hpin => cases hkind.symm.trans hpin

theorem readPin_finds (henabled : Enabled get testAll) (hkind : option.kind = .pin) :
    readOption (get option) none (fun s => (readPin option s).map some) = .error e ↔
      Finds get testAll (.value option) e := by
  rw [readOption_eq_error_iff]
  constructor
  · rintro ⟨s, hs, hread⟩
    obtain ⟨hpin, rfl⟩ := readPin_eq_error_iff.mp (map_some_eq_error_iff.mp hread)
    exact .pin henabled hkind hs hpin
  · intro h
    cases h with
    | bool _ hbool => cases hkind.symm.trans hbool
    | pattern => cases hkind
    | pin _ _ hs hpin =>
      exact ⟨_, hs, map_some_eq_error_iff.mpr (readPin_eq_error_iff.mpr ⟨hpin, rfl⟩)⟩

theorem readPattern_finds (henabled : Enabled get testAll) :
    readOption (get .pattern) none readPattern = .error e ↔
      Finds get testAll (.value .pattern) e := by
  rw [readOption_eq_error_iff]
  constructor
  · rintro ⟨s, hs, hread⟩
    obtain ⟨hne, hpattern, rfl⟩ := readPattern_eq_error_iff.mp hread
    exact .pattern henabled hs hne hpattern
  · intro h
    cases h with
    | bool _ hbool => cases hbool
    | pattern _ hs hne hpattern =>
      exact ⟨_, hs, readPattern_eq_error_iff.mpr ⟨hne, hpattern, rfl⟩⟩
    | pin _ hpin => cases hpin

/-- Reading the options fails with what the first of the checks on values finds. -/
theorem readOptions_eq_error_iff (henabled : Enabled get testAll) :
    readOptions get = .error e ↔
      FirstFinds (Finds get testAll) (PolicyOption.readingOrder.tail.map PolicyCheck.value) e := by
  -- one step for each option, in the order of the list
  refine bind_eq_error_cons (fun _ => readBool_finds (.inr henabled) rfl) fun _ _ => ?_
  refine bind_eq_error_cons (fun _ => readBool_finds (.inr henabled) rfl) fun _ _ => ?_
  refine bind_eq_error_cons (fun _ => readBool_finds (.inr henabled) rfl) fun _ _ => ?_
  refine bind_eq_error_cons (fun _ => readPattern_finds henabled) fun _ _ => ?_
  refine bind_eq_error_cons (fun _ => readPin_finds henabled rfl) fun _ _ => ?_
  refine bind_eq_error_cons (fun _ => readPin_finds henabled rfl) fun _ _ => ?_
  refine bind_eq_error_cons (fun _ => readPin_finds henabled rfl) fun _ _ => ?_
  exact iff_of_false nofun not_firstFinds_nil

/-- Of a container that is not to be checked only whether it is to be checked can be wrong. -/
theorem not_finds_of_not_enabled (h : ¬ Enabled get testAll) {check : PolicyCheck}
    (hcheck : check ≠ .value .enable) : ¬ Finds get testAll check e := by
  intro hfound
  cases hfound with
  | bool henabled =>
    rcases henabled with rfl | henabled
    · exact hcheck rfl
    · exact h henabled
  | pattern henabled => exact h henabled
  | pin henabled => exact h henabled
  | conflict henabled => exact h henabled

theorem Finds.mem_order {check : PolicyCheck} (h : Finds get testAll check e) :
    check ∈ PolicyCheck.order := by
  cases h with
  | bool _ hkind =>
    exact PolicyCheck.value_mem_order (PolicyOption.mem_readingOrder (by simp [hkind]))
  | pattern => decide
  | pin _ hkind =>
    exact PolicyCheck.value_mem_order (PolicyOption.mem_readingOrder (by simp [hkind]))
  | conflict _ _ hfilters =>
    refine PolicyCheck.conflict_mem_order ?_
    cases hfilters with
    | pattern => decide
    | pin hkind => exact PolicyOption.mem_conflictOrder hkind
    | useMetadata => decide

/-- The message about an error has the key of the option that was looked at. -/
theorem Finds.message_eq {check : PolicyCheck} (h : Finds get testAll check e)
    (container : String) :
    ∃ before after, e.message container = before ++ check.option.key container ++ after := by
  cases h with
  | bool => exact ⟨"Invalid boolean for ", _, String.append_assoc⟩
  | pattern => exact ⟨"Invalid regex for ", "", String.append_empty.symm⟩
  | pin => exact ⟨"Invalid version pin for ", _, String.append_assoc⟩
  | conflict => exact ⟨_, "", String.append_empty.symm⟩

/-! ### Values that are read -/

theorem readPattern_ok {pattern : Option Pattern}
    (h : readOption (get .pattern) none readPattern = .ok pattern) :
    (pattern.isSome = true ↔ Filters get .pattern) ∧
      ∀ p, pattern = some p → p.source ≠ "" ∧ get .pattern = some p.source := by
  rw [filters_pattern_iff]
  rcases readOption_eq_ok_iff.mp h with ⟨hnone, rfl⟩ | ⟨s, hs, hread⟩
  · simp [hnone]
  · rcases readPattern_eq_ok_iff.mp hread with ⟨rfl, rfl⟩ | ⟨hne, p, hp, rfl⟩
    · simp [hs]
    · refine ⟨iff_of_true rfl ⟨s, hs, hne⟩, ?_⟩
      rintro _ ⟨⟩
      rw [Pattern.source_of_compile? hp]
      exact ⟨hne, hs⟩

/-- Whether an option of a policy filters versions. -/
def filters (p : Policy) : PolicyOption → Bool
  | .pattern => p.pattern.isSome
  | .pinMajor => p.pinMajor.isSome
  | .pinMinor => p.pinMinor.isSome
  | .pinPatch => p.pinPatch.isSome
  | .useMetadata => p.useMetadata
  | _ => false

/-- What a policy that is read has from the values of the options. -/
structure ReadFrom (get : PolicyOption → Option String) (p : Policy) : Prop where
  useDigest : p.useDigest = true ↔ get .useDigest = some "true"
  filters : ∀ option ∈ PolicyOption.conflictOrder, p.filters option = true ↔ Filters get option
  pin : ∀ n, p.pinMajor = some n ∨ p.pinMinor = some n ∨ p.pinPatch = some n →
    0 ≤ n ∧ n ≤ Decimal.maxSigned
  pattern : ∀ pattern, p.pattern = some pattern →
    pattern.source ≠ "" ∧ get .pattern = some pattern.source
  overrideUrl : ∀ url, p.overrideUrl = some url → url ≠ "" ∧ get .overrideUrl = some url

theorem readFrom_of_readOptions {p : Policy} (h : readOptions get = .ok p) : ReadFrom get p := by
  simp only [readOptions, bind_eq_ok_iff] at h
  obtain ⟨useDigest, hdigest, resolveDigest, -, useMetadata, hmetadata, pattern, hpattern,
    pinMajor, hmajor, pinMinor, hminor, pinPatch, hpatch, hp⟩ := h
  obtain rfl := Except.ok.inj hp
  obtain ⟨hpattern, hsource⟩ := readPattern_ok hpattern
  obtain ⟨hmajor, hmajorRange⟩ := readPin_ok rfl hmajor
  obtain ⟨hminor, hminorRange⟩ := readPin_ok rfl hminor
  obtain ⟨hpatch, hpatchRange⟩ := readPin_ok rfl hpatch
  have hfilters : (useMetadata = true ↔ Filters get .useMetadata) := by
    rw [readBool_true_iff hmetadata, filters_useMetadata_iff]
  refine ⟨readBool_true_iff hdigest, ?_, ?_, hsource, ?_⟩
  · intro option hoption
    simp only [PolicyOption.conflictOrder, List.mem_cons, List.not_mem_nil, or_false] at hoption
    rcases hoption with rfl | rfl | rfl | rfl | rfl
    · exact hpattern
    · exact hmajor
    · exact hminor
    · exact hpatch
    · exact hfilters
  · rintro n (hn | hn | hn)
    · exact hmajorRange n hn
    · exact hminorRange n hn
    · exact hpatchRange n hn
  · intro url hurl
    obtain ⟨hget, hne⟩ := Option.filter_eq_some_iff.mp hurl
    exact ⟨by simpa using hne, hget⟩

/-! ### Options that cannot be honoured -/

theorem firstConflict_eq (p : Policy) :
    p.firstConflict =
      PolicyOption.conflictOrder.find? fun option => p.useDigest && p.filters option := by
  unfold firstConflict
  cases p.useDigest with
  | false => rfl
  | true =>
    simp only [PolicyOption.conflictOrder, List.find?_cons, List.find?_nil, filters, Bool.true_and]
    cases p.pattern.isSome <;> cases p.pinMajor.isSome <;> cases p.pinMinor.isSome <;>
      cases p.pinPatch.isSome <;> cases p.useMetadata <;> rfl

theorem ReadFrom.finds_conflict_iff {p : Policy} (h : ReadFrom get p)
    (henabled : Enabled get testAll) (hoption : option ∈ PolicyOption.conflictOrder) :
    Finds get testAll (.conflict option) e ↔
      (p.useDigest && p.filters option) = true ∧ e = .conflict option := by
  rw [Bool.and_eq_true, h.useDigest, h.filters option hoption]
  constructor
  · intro hfound
    cases hfound with
    | conflict _ hdigest hfilters => exact ⟨⟨hdigest, hfilters⟩, rfl⟩
  · rintro ⟨⟨hdigest, hfilters⟩, rfl⟩
    exact .conflict henabled hdigest hfilters

/-- The last step of reading annotations. -/
def finish (p : Policy) : Except PolicyError (Option Policy) :=
  match p.firstConflict with
  | some option => .error (.conflict option)
  | none => .ok (some p)

theorem ReadFrom.finish_eq_error_iff {p : Policy} (h : ReadFrom get p)
    (henabled : Enabled get testAll) :
    p.finish = .error e ↔
      FirstFinds (Finds get testAll) (PolicyOption.conflictOrder.map PolicyCheck.conflict) e := by
  rw [← find?_iff_firstFinds fun option hoption e => h.finds_conflict_iff henabled hoption,
    ← firstConflict_eq]
  unfold finish
  cases p.firstConflict <;> simp [eq_comm]

theorem finish_eq_ok_iff {p : Policy} {policy : Option Policy} :
    p.finish = .ok policy ↔ p.firstConflict = none ∧ policy = some p := by
  unfold finish
  cases p.firstConflict <;> simp [eq_comm]

/-- Where no option conflicts, a policy that is read from trimmed values is valid. -/
theorem ReadFrom.valid {p : Policy} (h : ReadFrom get p)
    (hget : ∀ option s, get option = some s → s ≠ "" → Bare s) (hnone : p.firstConflict = none) :
    p.Valid where
  pin := h.pin
  pattern := by
    intro pattern hpattern
    obtain ⟨hne, hs⟩ := h.pattern pattern hpattern
    exact hget _ _ hs hne
  overrideUrl := by
    intro url hurl
    obtain ⟨hne, hs⟩ := h.overrideUrl url hurl
    exact hget _ _ hs hne
  useDigest := by
    intro hdigest
    rw [firstConflict_eq, List.find?_eq_none] at hnone
    simpa [PolicyOption.conflictOrder, hdigest, Policy.filters] using hnone

end Findings

/-! ### Annotations -/

section Annotations

variable [PatternEngine] {annotations : Annotations} {container : String} {testAll : Bool}
  {e : PolicyError}

theorem ofAnnotations_eq (annotations : Annotations) (container : String) (testAll : Bool) :
    ofAnnotations annotations container testAll =
      (readOption (optionValue annotations container .enable) testAll (readBool .enable) >>=
        fun enabled =>
          if enabled = true then readOptions (optionValue annotations container) >>= finish
          else .ok none) := by
  unfold ofAnnotations
  refine congrArg (_ >>= ·) (funext fun enabled => ?_)
  cases enabled <;> rfl

/-- Reading annotations fails with what the first check finds that finds an error. -/
theorem ofAnnotations_eq_error_iff :
    ofAnnotations annotations container testAll = .error e ↔
      FirstFinds (Finds (optionValue annotations container) testAll) PolicyCheck.order e := by
  have horder : PolicyCheck.order = .value .enable ::
      (PolicyOption.readingOrder.tail.map PolicyCheck.value ++
        PolicyOption.conflictOrder.map PolicyCheck.conflict) := rfl
  rw [ofAnnotations_eq, horder]
  refine bind_eq_error_cons (fun _ => readBool_finds (.inl rfl) rfl) fun enabled hread => ?_
  cases enabled with
  | false =>
    have hdisabled : ¬ Enabled (optionValue annotations container) testAll := by
      simp [enabled_iff hread]
    refine iff_of_false nofun fun hfirst => ?_
    obtain ⟨check, hcheck, e, hfound⟩ := exists_firstFinds_iff.mp ⟨e, hfirst⟩
    refine not_finds_of_not_enabled hdisabled ?_ hfound
    rintro rfl
    exact absurd hcheck (by decide)
  | true =>
    -- which options conflict is known only of the policy that has been read
    have henabled := (enabled_iff hread).mpr rfl
    exact bind_eq_error_append (fun _ => readOptions_eq_error_iff henabled) fun p hp =>
      (readFrom_of_readOptions hp).finish_eq_error_iff henabled

theorem ofAnnotations_eq_none_iff :
    ofAnnotations annotations container testAll = .ok none ↔
      optionValue annotations container .enable = some "false" ∨
        optionValue annotations container .enable = none ∧ testAll = false := by
  rw [ofAnnotations_eq, bind_eq_ok_iff]
  constructor
  · rintro ⟨enabled, hread, hnone⟩
    cases enabled with
    | false => exact readBool_ok hread
    | true =>
      obtain ⟨p, -, hp⟩ := bind_eq_ok_iff.mp hnone
      cases (finish_eq_ok_iff.mp hp).2
  · intro h
    refine ⟨false, readOption_eq_ok_iff.mpr ?_, rfl⟩
    rcases h with hfalse | hnone
    · exact Or.inr ⟨_, hfalse, rfl⟩
    · exact Or.inl hnone

theorem valid_of_ofAnnotations {p : Policy}
    (h : ofAnnotations annotations container testAll = .ok (some p)) : p.Valid := by
  rw [ofAnnotations_eq] at h
  obtain ⟨enabled, -, h⟩ := bind_eq_ok_iff.mp h
  cases enabled with
  | false => cases h
  | true =>
    obtain ⟨q, hq, hfinish⟩ := bind_eq_ok_iff.mp h
    obtain ⟨hnone, hp⟩ := finish_eq_ok_iff.mp hfinish
    obtain rfl := Option.some.inj hp
    exact (readFrom_of_readOptions hq).valid (fun _ _ => bare_of_optionValue) hnone

/-- **Reading annotations fails exactly if an option is wrong, and what is read is valid.**  A
    container is not checked if its annotations say so, or say nothing and not all containers are
    checked, whatever else they say.  Reading fails if and only if some check finds an error, with
    the error that the first of them finds, and the message names the option.  Otherwise the policy
    that is read is valid. -/
theorem ofAnnotations_outcome (annotations : Annotations) (container : String) (testAll : Bool) :
    let get (option : PolicyOption) := (annotations.lookup (option.key container)).map trim
    (ofAnnotations annotations container testAll = .ok none ↔
      get .enable = some "false" ∨ get .enable = none ∧ testAll = false) ∧
    ((∃ e, ofAnnotations annotations container testAll = .error e) ↔
      ∃ check e, Finds get testAll check e) ∧
    (∀ e, ofAnnotations annotations container testAll = .error e ↔
      FirstFinds (Finds get testAll) PolicyCheck.order e) ∧
    (∀ check e, Finds get testAll check e → ∃ before after,
      e.message container = before ++ check.option.key container ++ after) ∧
    (∀ p, ofAnnotations annotations container testAll = .ok (some p) → p.Valid) := by
  intro get
  refine ⟨ofAnnotations_eq_none_iff, ?_, fun _ => ofAnnotations_eq_error_iff,
    fun _ _ h => h.message_eq container, fun _ => valid_of_ofAnnotations⟩
  simp only [ofAnnotations_eq_error_iff, exists_firstFinds_iff]
  constructor
  · rintro ⟨check, -, hfound⟩
    exact ⟨check, hfound⟩
  · rintro ⟨check, e, hfound⟩
    exact ⟨check, hfound.mem_order, e, hfound⟩

end Annotations

/-- A negative pin, a pattern that does not compile, and the comparison of digests, for which both
    stand in the way. -/
def severalFaults : Annotations :=
  [("pin-major.version-checker.io/app", "-1"), ("match-regex.version-checker.io/app", "("),
    ("use-sha.version-checker.io/app", " true\n"), ("enable.version-checker.io/app", "true")]

/-- Of several faults the pattern is found first, another container has none of them, and one pin is
    read. -/
theorem ofAnnotations_outcome_several :
    let onePin : Annotations := [("pin-major.version-checker.io/app", " 1")]
    let pinned : Policy := { empty with pinMajor := some 1 }
    ofAnnotations severalFaults "app" false = .error .invalidPattern ∧
      FirstFinds (Finds (optionValue severalFaults "app") false) PolicyCheck.order .invalidPattern ∧
      ofAnnotations severalFaults "web" false = .ok none ∧
      ofAnnotations onePin "app" true = .ok (some pinned) ∧ pinned.Valid := by
  intro onePin pinned
  have hfails : ofAnnotations severalFaults "app" false = .error .invalidPattern := by rfl
  have hread : ofAnnotations onePin "app" true = .ok (some pinned) := by rfl
  obtain ⟨-, -, hfirst, -, -⟩ := ofAnnotations_outcome severalFaults "app" false
  obtain ⟨hnone, -, -, -, -⟩ := ofAnnotations_outcome severalFaults "web" false
  obtain ⟨-, -, -, -, hvalid⟩ := ofAnnotations_outcome onePin "app" true
  exact ⟨hfails, (hfirst _).mp hfails, hnone.mpr (Or.inr ⟨by decide, rfl⟩), hread,
    hvalid pinned hread⟩

end Policy

end ImageFreshness
