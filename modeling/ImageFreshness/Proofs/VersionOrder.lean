import ImageFreshness.Version.Order

/-!
# The order of versions is a strict partial order

The comparisons of texts, of digits, of words and of numbers that make up `lessThan` are all
lawful three-way comparisons.  What is left of `lessThan` is then one of these, cut down by two
rules: the empty tag comes first, and a version without metadata is not below one with metadata.
Both rules are transitive by themselves, so the order stays a strict one, but it is not total any
more.
-/

namespace ImageFreshness

open Std

/-! ### Words -/

namespace Word

theorem compareText_eq (a b : List Char) :
    compareText a b = List.compareLex (compareOn Char.toNat) a b := by
  induction a generalizing b with
  | nil => cases b <;> rfl
  | cons c as ih =>
    cases b with
    | nil => rfl
    | cons d bs => rw [compareText, List.compareLex_cons_cons, ih, compareOn]

instance : TransCmp compareText := by
  have h : compareText = List.compareLex (compareOn Char.toNat) :=
    funext fun a => funext (compareText_eq a)
  rw [h]
  infer_instance

/-- The digits of a number without its leading zeros. -/
def significant (digits : List Char) : List Char := digits.dropWhile (· = '0')

/-- Runs of digits are compared by length first and then as texts. -/
theorem compareDigits_eq (a b : List Char) :
    compareDigits a b =
      compareLex (compareOn List.length) compareText (significant a) (significant b) := rfl

instance : TransCmp compareDigits where
  eq_swap := by
    intro a b
    rw [compareDigits_eq, compareDigits_eq]
    exact OrientedCmp.eq_swap
  isLE_trans := by
    intro a b c
    rw [compareDigits_eq, compareDigits_eq, compareDigits_eq]
    exact TransCmp.isLE_trans

instance : TransCmp Word.compare where
  eq_swap := by
    intro a b
    cases a with
    | number a =>
      cases b with
      | number b => exact @OrientedCmp.eq_swap _ compareDigits _ a b
      | text b => rfl
    | text a =>
      cases b with
      | number b => rfl
      | text b => exact @OrientedCmp.eq_swap _ compareText _ a b
  isLE_trans := by
    intro a b c hab hbc
    -- the word in the middle decides which kinds the others can be of
    cases b with
    | number b =>
      cases c with
      | number c =>
        cases a with
        | number a => exact @TransCmp.isLE_trans _ compareDigits _ a b c hab hbc
        | text a => rfl
      | text c => exact absurd hbc (by simp [compare])
    | text b =>
      cases a with
      | number a => exact absurd hab (by simp [compare])
      | text a =>
        cases c with
        | number c => rfl
        | text c => exact @TransCmp.isLE_trans _ compareText _ a b c hab hbc

/-- The three-way comparison that belongs to `listLess`. -/
def compareLists : List Word → List Word → Ordering
  | [], [] => .eq
  | [], _ :: _ => .gt
  | _ :: _, [] => .lt
  | a :: as, b :: bs => (compare a b).then (compareLists as bs)

theorem listLess_iff (a b : List Word) : listLess a b = true ↔ compareLists a b = .lt := by
  induction a generalizing b with
  | nil => cases b <;> simp [listLess, compareLists]
  | cons x as ih =>
    cases b with
    | nil => simp [listLess, compareLists]
    | cons y bs =>
      unfold listLess compareLists
      cases compare x y with
      | lt => simp
      | gt => simp
      | eq => simpa using ih bs

instance : TransCmp compareLists where
  eq_swap := by
    intro a b
    induction a generalizing b with
    | nil => cases b <;> rfl
    | cons x as ih =>
      cases b with
      | nil => rfl
      | cons y bs =>
        rw [compareLists, compareLists, Ordering.swap_then, ← ih]
        exact congrArg (·.then (compareLists as bs)) (@OrientedCmp.eq_swap _ compare _ x y)
  isLE_trans := by
    intro a b c hab hbc
    induction a generalizing b c with
    | nil =>
      cases b with
      | nil => exact hbc
      | cons y bs => cases hab
    | cons x as ih =>
      cases c with
      | nil => rfl
      | cons z cs =>
        cases b with
        | nil => cases hbc
        | cons y bs =>
          simp only [compareLists, Ordering.isLE_then_iff_and] at hab hbc ⊢
          refine ⟨TransCmp.isLE_trans hab.1 hbc.1, ?_⟩
          rcases hab.2 with hxy | hrest
          · exact Or.inl (TransCmp.lt_of_lt_of_isLE hxy hbc.1)
          · rcases hbc.2 with hyz | hrest'
            · exact Or.inl (TransCmp.lt_of_isLE_of_lt hab.1 hyz)
            · exact Or.inr (ih hrest hrest')

end Word

/-! ### Versions -/

namespace TagVersion

/-- The comparison of the numbers, and then of the metadata, of two versions. -/
def compareParts (a b : TagVersion) : Ordering :=
  (compareNumbers a.numbers b.numbers).then (Word.compareLists a.words b.words)

/-- Versions are compared part by part, the most significant one first. -/
theorem compareParts_eq :
    compareParts = compareLex (compareOn major) (compareLex (compareOn minor)
      (compareLex (compareOn patch) (fun a b => Word.compareLists a.words b.words))) := by
  funext a b
  simp only [compareParts, compareNumbers, numbers, compareLex, compareOn, Ordering.then_eq,
    Ordering.then_assoc]

instance : TransCmp fun a b : TagVersion => Word.compareLists a.words b.words where
  eq_swap := @fun a b => @OrientedCmp.eq_swap _ Word.compareLists _ a.words b.words
  isLE_trans := @fun a b c =>
    @TransCmp.isLE_trans _ Word.compareLists _ a.words b.words c.words

instance : TransCmp compareParts := by
  rw [compareParts_eq]
  infer_instance

theorem compareParts_eq_lt (a b : TagVersion) :
    compareParts a b = .lt ↔
      (match compareNumbers a.numbers b.numbers with
        | .lt => true
        | .gt => false
        | .eq => Word.listLess a.words b.words) = true := by
  unfold compareParts
  cases compareNumbers a.numbers b.numbers with
  | lt => simp
  | gt => simp
  | eq => exact (Word.listLess_iff a.words b.words).symm

/-- Between tags that are not empty, `lessThan` is the comparison of their parts, unless only the
    second one has metadata. -/
theorem lessThan_iff (a b : TagVersion) :
    a.lessThan b = true ↔
      (a.tag = "" ∧ b.tag ≠ "") ∨
      (a.tag ≠ "" ∧ b.tag ≠ "" ∧ (b.hasMetadata = true → a.hasMetadata = true) ∧
        compareParts a b = .lt) := by
  have hguard : (!a.hasMetadata && b.hasMetadata) = true ↔
      ¬ (b.hasMetadata = true → a.hasMetadata = true) := by
    cases a.hasMetadata <;> cases b.hasMetadata <;> decide
  unfold lessThan
  by_cases ha : a.tag = ""
  · simp [ha]
  · by_cases hb : b.tag = ""
    · simp [ha, hb]
    · rw [if_neg (not_or.mpr ⟨ha, hb⟩)]
      by_cases hmetadata : b.hasMetadata = true → a.hasMetadata = true
      · rw [if_neg (fun h => hguard.mp h hmetadata)]
        refine (compareParts_eq_lt a b).symm.trans ?_
        constructor
        · intro hparts
          exact Or.inr ⟨ha, hb, hmetadata, hparts⟩
        · rintro (⟨hempty, -⟩ | ⟨-, -, -, hparts⟩)
          · exact absurd hempty ha
          · exact hparts
      · rw [if_pos (hguard.mpr hmetadata)]
        simp [ha, hmetadata]

theorem lessThan_self (a : TagVersion) : a.lessThan a = false := by
  rw [Bool.eq_false_iff]
  intro h
  rcases (lessThan_iff a a).mp h with ⟨hempty, hne⟩ | ⟨-, -, -, hparts⟩
  · exact hne hempty
  · rw [@ReflCmp.compare_self _ compareParts _ a] at hparts
    cases hparts

theorem lessThan_trans {a b c : TagVersion} (hab : a.lessThan b = true)
    (hbc : b.lessThan c = true) : a.lessThan c = true := by
  rw [lessThan_iff] at hab hbc ⊢
  rcases hbc with ⟨hb, hc⟩ | ⟨hb, hc, hmetadata', hparts'⟩
  · -- nothing is below the empty tag
    rcases hab with ⟨-, hb'⟩ | ⟨-, hb', -, -⟩
    · exact absurd hb hb'
    · exact absurd hb hb'
  · rcases hab with ⟨ha, -⟩ | ⟨ha, -, hmetadata, hparts⟩
    · exact Or.inl ⟨ha, hc⟩
    · refine Or.inr ⟨ha, hc, ?_, TransCmp.lt_trans hparts hparts'⟩
      intro h
      exact hmetadata (hmetadata' h)

theorem lessThan_asymm {a b : TagVersion} (hab : a.lessThan b = true) : b.lessThan a = false := by
  rw [Bool.eq_false_iff]
  intro hba
  have haa := lessThan_trans hab hba
  rw [lessThan_self] at haa
  cases haa

/-- A version with metadata, or two without, are compared by their parts. -/
theorem lessThan_iff_compareParts {a b : TagVersion} (ha : a.tag ≠ "") (hb : b.tag ≠ "")
    (hmetadata : b.hasMetadata = true → a.hasMetadata = true) :
    a.lessThan b = true ↔ compareParts a b = .lt := by
  rw [lessThan_iff]
  constructor
  · rintro (⟨hempty, -⟩ | ⟨-, -, -, hparts⟩)
    · exact absurd hempty ha
    · exact hparts
  · intro hparts
    exact Or.inr ⟨ha, hb, hmetadata, hparts⟩

theorem compareParts_eq_of_not_lessThan {a b : TagVersion} (ha : a.tag ≠ "") (hb : b.tag ≠ "")
    (hmetadata : a.hasMetadata = b.hasMetadata) (hab : a.lessThan b = false)
    (hba : b.lessThan a = false) : compareParts a b = .eq := by
  cases hparts : compareParts a b with
  | eq => rfl
  | lt =>
    have hless := (lessThan_iff_compareParts ha hb (fun h => hmetadata ▸ h)).mpr hparts
    rw [hab] at hless
    cases hless
  | gt =>
    have hless := (lessThan_iff_compareParts hb ha (fun h => hmetadata ▸ h)).mpr
      (OrientedCmp.gt_iff_lt.mp hparts)
    rw [hba] at hless
    cases hless

/-- On the versions of any three texts, `lessThan` is irreflexive, asymmetric and transitive. -/
theorem parse_strictOrder (a b c : String) :
    (parse a).lessThan (parse a) = false ∧
    ¬ ((parse a).lessThan (parse b) = true ∧ (parse b).lessThan (parse a) = true) ∧
    ((parse a).lessThan (parse b) = true → (parse b).lessThan (parse c) = true →
      (parse a).lessThan (parse c) = true) := by
  refine ⟨lessThan_self (parse a), ?_, lessThan_trans⟩
  intro ⟨hab, hba⟩
  rw [lessThan_asymm hab] at hba
  cases hba

/-- A candidate, the next one and the release that they lead to. -/
theorem parse_strictOrder_candidates :
    (parse "1.4.0-rc9").lessThan (parse "1.4.0-rc10") = true ∧
    (parse "1.4.0-rc10").lessThan (parse "v1.4") = true ∧
    (parse "1.4.0-rc9").lessThan (parse "v1.4") = true := by
  have hfirst : (parse "1.4.0-rc9").lessThan (parse "1.4.0-rc10") = true := by decide
  have hsecond : (parse "1.4.0-rc10").lessThan (parse "v1.4") = true := by decide
  exact ⟨hfirst, hsecond, (parse_strictOrder _ _ _).2.2 hfirst hsecond⟩

end TagVersion

end ImageFreshness
