import ImageFreshness.Proofs.WordValues

/-!
# Versions that are not ordered

`lessThan` leaves some pairs of versions without an order.  Two versions of one kind, with metadata
or without, are not ordered exactly if all of their parts are equally late.  A version with metadata
and one without are not ordered exactly if the numbers of the first are the larger ones
(`TagVersion.parse_tie_iff`).
-/

namespace ImageFreshness

open Std

namespace TagVersion

variable {a b : TagVersion}

/-! ### Parts -/

theorem compareNumbers_eq_gt_iff (a b : TagVersion) :
    compareNumbers a.numbers b.numbers = .gt ↔ b.numbers < a.numbers := by
  simp [numbers, compareNumbers, Ordering.then_eq_gt, List.cons_lt_cons_iff, Nat.compare_eq_gt,
    @eq_comm Nat]

theorem compareNumbers_eq_eq_iff (a b : TagVersion) :
    compareNumbers a.numbers b.numbers = .eq ↔ a.numbers = b.numbers := by
  simp [numbers, compareNumbers, Ordering.then_eq_eq]

theorem isRun_of_mem_words (v : TagVersion) : ∀ w ∈ v.words, w.IsRun := Word.isRun_of_mem_split _

theorem compareParts_eq_eq_iff (a b : TagVersion) :
    compareParts a b = .eq ↔
      a.numbers = b.numbers ∧ List.Forall₂ Word.SameValue a.words b.words := by
  rw [compareParts, Ordering.then_eq_eq, compareNumbers_eq_eq_iff,
    Word.compareLists_eq_iff a.isRun_of_mem_words b.isRun_of_mem_words]

theorem words_of_not_hasMetadata (h : a.hasMetadata = false) : a.words = [] := by
  have hnone : a.metadata = "" := by simpa [hasMetadata] using h
  rw [words, hnone]
  rfl

theorem words_ne_nil (h : a.hasMetadata = true) : a.words ≠ [] := by
  have hsome : a.metadata ≠ "" := by simpa [hasMetadata] using h
  exact Word.split_ne_nil fun hnil => hsome (String.toList_eq_nil_iff.mp hnil)

/-- Metadata is earlier than none, so only larger numbers make up for it. -/
theorem compareParts_eq_gt_iff (ha : a.hasMetadata = true) (hb : b.hasMetadata = false) :
    compareParts a b = .gt ↔ b.numbers < a.numbers := by
  have hwords : Word.compareLists a.words b.words = .lt := by
    rw [words_of_not_hasMetadata hb]
    obtain ⟨w, ws, hcons⟩ := List.exists_cons_of_ne_nil (words_ne_nil ha)
    rw [hcons]
    rfl
  rw [compareParts, hwords, Ordering.then_eq_gt, compareNumbers_eq_gt_iff]
  simp

/-- Without metadata only the numbers count. -/
theorem compareParts_eq_gt_iff_of_plain (ha : a.hasMetadata = false) (hb : b.hasMetadata = false) :
    compareParts a b = .gt ↔ b.numbers < a.numbers := by
  rw [compareParts, words_of_not_hasMetadata ha, words_of_not_hasMetadata hb, Ordering.then_eq_gt,
    compareNumbers_eq_gt_iff]
  simp [Word.compareLists]

/-! ### Pairs without an order -/

/-- Neither of two versions is below the other. -/
def Tied (a b : TagVersion) : Prop := a.lessThan b = false ∧ b.lessThan a = false

theorem Tied.symm (h : Tied a b) : Tied b a := ⟨h.2, h.1⟩

theorem tied_comm : Tied a b ↔ Tied b a := ⟨Tied.symm, Tied.symm⟩

/-- The empty tag is tied with no other. -/
theorem tied_iff_of_empty (ha : a.tag = "") : Tied a b ↔ b.tag = "" := by
  have hab : a.lessThan b = true ↔ b.tag ≠ "" := by simp [lessThan_iff, ha]
  have hba : b.lessThan a = true ↔ False := by simp [lessThan_iff, ha]
  rw [Tied, Bool.eq_false_iff, Bool.eq_false_iff, ne_eq, ne_eq, hab, hba]
  simp

theorem tied_iff_of_same_kind (ha : a.tag ≠ "") (hb : b.tag ≠ "")
    (hkind : a.hasMetadata = b.hasMetadata) : Tied a b ↔ compareParts a b = .eq := by
  constructor
  · rintro ⟨hab, hba⟩
    exact compareParts_eq_of_not_lessThan ha hb hkind hab hba
  · intro hparts
    have hparts' : compareParts b a = .eq := OrientedCmp.eq_comm.mp hparts
    rw [Tied, Bool.eq_false_iff, Bool.eq_false_iff, ne_eq, ne_eq, lessThan_iff, lessThan_iff]
    simp [ha, hb, hparts, hparts']

theorem tied_iff_of_other_kind (ha : a.tag ≠ "") (hb : b.tag ≠ "")
    (hmetadata : a.hasMetadata = true) (hplain : b.hasMetadata = false) :
    Tied a b ↔ b.numbers < a.numbers := by
  have hba : b.lessThan a = false := by
    rw [Bool.eq_false_iff, ne_eq, lessThan_iff]
    simp [hb, hmetadata, hplain]
  have hab : a.lessThan b = true ↔ compareParts a b = .lt :=
    lessThan_iff_compareParts ha hb (fun _ => hmetadata)
  have hne : compareParts a b ≠ .eq := by
    rw [ne_eq, compareParts_eq_eq_iff, words_of_not_hasMetadata hplain, List.forall₂_nil_right_iff]
    exact fun h => words_ne_nil hmetadata h.2
  rw [Tied, Bool.eq_false_iff, ne_eq, hab, ← compareParts_eq_gt_iff hmetadata hplain]
  cases hparts : compareParts a b with
  | eq => exact absurd hparts hne
  | lt => simp
  | gt => simp [hba]

theorem hasMetadata_parse_empty : (parse "").hasMetadata = false := rfl

/-- Two texts are versions without an order exactly if both are empty; if both have no metadata and
    the same numbers; if both have metadata, the same numbers, and words that agree one by one; or
    if only one has metadata and the larger numbers. -/
theorem parse_tie_iff (a b : String) :
    ((parse a).lessThan (parse b) = false ∧ (parse b).lessThan (parse a) = false) ↔
      (a = "" ∧ b = "") ∨
      (a ≠ "" ∧ b ≠ "" ∧ (parse a).hasMetadata = false ∧ (parse b).hasMetadata = false ∧
        (parse a).numbers = (parse b).numbers) ∨
      ((parse a).hasMetadata = true ∧ (parse b).hasMetadata = true ∧
        (parse a).numbers = (parse b).numbers ∧
        List.Forall₂ Word.SameValue (parse a).words (parse b).words) ∨
      (a ≠ "" ∧ b ≠ "" ∧ (parse a).hasMetadata = true ∧ (parse b).hasMetadata = false ∧
        (parse b).numbers < (parse a).numbers) ∨
      (a ≠ "" ∧ b ≠ "" ∧ (parse a).hasMetadata = false ∧ (parse b).hasMetadata = true ∧
        (parse a).numbers < (parse b).numbers) := by
  change Tied (parse a) (parse b) ↔ _
  by_cases ha : a = ""
  · rw [tied_iff_of_empty ((parse_tag a).trans ha), parse_tag]
    simp [ha, hasMetadata_parse_empty]
  by_cases hb : b = ""
  · rw [tied_comm, tied_iff_of_empty ((parse_tag b).trans hb), parse_tag]
    simp [ha, hb, hasMetadata_parse_empty]
  have ha' : (parse a).tag ≠ "" := by rwa [parse_tag]
  have hb' : (parse b).tag ≠ "" := by rwa [parse_tag]
  -- with both texts there, it is the kinds that say which parts are compared
  cases hakind : (parse a).hasMetadata with
  | false =>
    cases hbkind : (parse b).hasMetadata with
    | false =>
      rw [tied_iff_of_same_kind ha' hb' (hakind.trans hbkind.symm), compareParts_eq_eq_iff,
        words_of_not_hasMetadata hakind, words_of_not_hasMetadata hbkind]
      simp [ha, hb]
    | true =>
      rw [tied_comm, tied_iff_of_other_kind hb' ha' hbkind hakind]
      simp [ha, hb]
  | true =>
    cases hbkind : (parse b).hasMetadata with
    | false =>
      rw [tied_iff_of_other_kind ha' hb' hakind hbkind]
      simp [ha, hb]
    | true =>
      rw [tied_iff_of_same_kind ha' hb' (hakind.trans hbkind.symm), compareParts_eq_eq_iff]
      simp [ha]

end TagVersion

end ImageFreshness
